import Mathlib
import Forum.Proofs.Engagement.Race

/-!
# Where the entries are

The references to entries in a race. Every reference was made for one post, its owner, and writers
hold references only to entries of the posts that they are busy with. An entry is in the map under
its owner, or about to be flagged by the one writer that took it out of the map, or flagged. It is
never two of these, also when its post was registered again with another entry.
-/

namespace Forum.Engagement.Race

variable {owner : Nat → Int64} {r : Race} {place : Nat} {before after : Writer} {memory : Memory}

/-- The references that writers hold, or held when they took a step, are to entries of the posts
that they are busy with. -/
structure Held (owner : Nat → Int64) (r : Race) : Prop where
  /-- Now. -/
  current : ∀ (place : Nat) (w : Writer) (post : Int64) (ref : Nat),
    r.writers[place]? = some w → w.holds = some (post, ref) →
      ref < r.memory.cells.length ∧ owner ref = post
  /-- When they took a step. -/
  past : ∀ move ∈ r.moves, ∀ post ref, move.before.holds = some (post, ref) →
    ref < r.memory.cells.length ∧ owner ref = post

/-- An entry is in the map under its owner, about to be flagged, or flagged, and only one of the
three. -/
structure Placed (owner : Nat → Int64) (r : Race) : Prop where
  /-- The map leads to entries of the posts, none of which is flagged. -/
  listed : ∀ post ref, r.memory.posts[post]? = some ref →
    ref < r.memory.cells.length ∧ owner ref = post ∧ (r.memory.cell ref).removed = false
  /-- What is about to be flagged is not in the map. -/
  taken : ∀ (place : Nat) (post : Int64) (ref : Nat),
    r.writers[place]? = some (.clear post ref) → r.memory.posts[post]? ≠ some ref
  /-- What is not in the map is flagged or about to be. -/
  pending : ∀ ref < r.memory.cells.length, (r.memory.cell ref).removed = false →
    r.memory.posts[owner ref]? = some ref ∨
      ∃ place : Nat, r.writers[place]? = some (.clear (owner ref) ref)

/-- Steps keep the references in order that they do not fetch. -/
theorem Held.moved {owner' : Nat → Int64} (hh : Held owner r)
    (hb : r.writers[place]? = some before)
    (hle : r.memory.cells.length ≤ memory.cells.length)
    (howner : ∀ ref < r.memory.cells.length, owner' ref = owner ref)
    (hfetched : ∀ post ref, after.holds = some (post, ref) →
      ref < memory.cells.length ∧ owner' ref = post) :
    Held owner' (r.moved place before after memory) := by
  have hkept : ∀ post ref, ref < r.memory.cells.length ∧ owner ref = post →
      ref < memory.cells.length ∧ owner' ref = post := fun post ref hold =>
    ⟨hold.1.trans_le hle, (howner ref hold.1).trans hold.2⟩
  refine ⟨fun other w post ref hw hholds => ?_, fun move hm post ref hholds => ?_⟩
  · rw [getElem?_writers_moved hb] at hw
    split at hw
    case isTrue =>
      cases hw
      exact hfetched post ref hholds
    case isFalse => exact hkept post ref (hh.current other w post ref hw hholds)
  · rcases List.mem_append.1 hm with hold | hnew
    · exact hkept post ref (hh.past move hold post ref hholds)
    · rw [List.mem_singleton.1 hnew] at hholds
      exact hkept post ref (hh.current place before post ref hb hholds)

/-- A writer other than the one that took a step is as it was. -/
theorem getElem?_clear_moved {post : Int64} {ref other : Nat}
    (hb : r.writers[place]? = some before)
    (hne : ∀ post ref, after ≠ .clear post ref)
    (hc : (r.moved place before after memory).writers[other]? = some (.clear post ref)) :
    r.writers[other]? = some (.clear post ref) := by
  rw [getElem?_writers_moved hb] at hc
  split at hc
  case isTrue => exact absurd (Option.some_inj.1 hc) (hne post ref)
  case isFalse => exact hc

/-- What was about to be flagged still is, if it was not this that was done. -/
theorem exists_clear_moved {post : Int64} {ref : Nat} (hb : r.writers[place]? = some before)
    (hne : before ≠ .clear post ref)
    (hc : ∃ other : Nat, r.writers[other]? = some (.clear post ref)) :
    ∃ other : Nat,
      (r.moved place before after memory).writers[other]? = some (.clear post ref) := by
  obtain ⟨other, ho⟩ := hc
  refine ⟨other, ?_⟩
  rw [getElem?_writers_moved hb, if_neg]
  · exact ho
  · rintro rfl
    exact hne (Option.some_inj.1 (hb.symm.trans ho))

/-- Reading changes nothing. -/
theorem Placed.looked (hp : Placed owner r) (hb : r.writers[place]? = some before)
    (hbefore : ∀ post ref, before ≠ .clear post ref)
    (hafter : ∀ post ref, after ≠ .clear post ref) :
    Placed owner (r.moved place before after r.memory) where
  listed := hp.listed
  taken other post ref hc := hp.taken other post ref (getElem?_clear_moved hb hafter hc)
  pending ref hlt hf := by
    rcases hp.pending ref hlt hf with hlisted | hclear
    · exact Or.inl hlisted
    · exact Or.inr (exists_clear_moved hb (hbefore _ _) hclear)

/-- A new entry belongs to the post that is registered with it. -/
theorem Placed.entered {post : Int64} (hp : Placed owner r) (hh : Held owner r)
    (hb : r.writers[place]? = some before) (hunknown : r.memory.posts[post]? = none)
    (hbefore : ∀ post ref, before ≠ .clear post ref)
    (hafter : ∀ post ref, after ≠ .clear post ref) :
    Placed (Function.update owner r.memory.cells.length post)
      (r.moved place before after (r.memory.enter post)) := by
  have howner : ∀ ref < r.memory.cells.length,
      Function.update owner r.memory.cells.length post ref = owner ref := fun ref hlt =>
    Function.update_of_ne hlt.ne _ _
  constructor
  case listed =>
    intro other ref hm
    rw [memory_moved, Memory.getElem?_posts_enter] at hm
    rw [memory_moved, Memory.length_enter, Memory.cell_enter]
    split at hm
    case isTrue hsame =>
      cases hm
      refine ⟨Nat.lt_succ_self _, (Function.update_self ..).trans hsame.symm, ?_⟩
      rw [Memory.cell_of_le (le_refl _)]
    case isFalse =>
      obtain ⟨hlt, ho, hf⟩ := hp.listed other ref hm
      exact ⟨by omega, (howner ref hlt).trans ho, hf⟩
  case taken =>
    intro other post' ref hc hm
    have hc := getElem?_clear_moved hb hafter hc
    have hlt := (hh.current other _ post' ref hc rfl).1
    rw [memory_moved, Memory.getElem?_posts_enter] at hm
    split at hm
    case isTrue =>
      cases hm
      exact absurd hlt (Nat.lt_irrefl _)
    case isFalse => exact hp.taken other post' ref hc hm
  case pending =>
    intro ref hlt hf
    rw [memory_moved, Memory.length_enter] at hlt
    rw [memory_moved, Memory.cell_enter] at hf
    rw [memory_moved, Memory.getElem?_posts_enter]
    -- An entry from before has another post, because this one was not in the map.
    rcases Nat.lt_succ_iff_lt_or_eq.1 hlt with hold | rfl
    · rw [howner ref hold]
      rcases hp.pending ref hold hf with hlisted | hclear
      · left
        rw [if_neg]
        · exact hlisted
        · rintro hsame
          rw [hsame, hunknown] at hlisted
          cases hlisted
      · exact Or.inr (exists_clear_moved hb (hbefore _ _) hclear)
    · left
      rw [Function.update_self, if_pos rfl]

/-- Editing an entry moves none. -/
theorem Placed.applied {e : Edit} {ref : Nat} {entry : Entry} (hp : Placed owner r)
    (hlt : ref < r.memory.cells.length) (hb : r.writers[place]? = some (.apply e ref))
    (hf : (r.memory.cell ref).removed = false) (hafter : ∀ post ref, after ≠ .clear post ref) :
    Placed owner (r.moved place (.apply e ref) after (r.memory.write ref ⟨entry, false⟩)) := by
  have hflag : ∀ other, ((r.memory.write ref ⟨entry, false⟩).cell other).removed =
      (r.memory.cell other).removed := by
    intro other
    rw [Memory.cell_write _ hlt]
    split
    case isTrue hsame => rw [hsame, hf]
    case isFalse => rfl
  constructor
  case listed =>
    intro other found hm
    rw [memory_moved, Memory.length_write, hflag]
    exact hp.listed other found hm
  case taken =>
    intro other post found hc
    exact hp.taken other post found (getElem?_clear_moved hb hafter hc)
  case pending =>
    intro found hlt' hf'
    rw [memory_moved, Memory.length_write] at hlt'
    rw [memory_moved, hflag] at hf'
    rcases hp.pending found hlt' hf' with hlisted | hclear
    · exact Or.inl hlisted
    · exact Or.inr (exists_clear_moved hb (by simp) hclear)

/-- An entry that is taken out of the map is about to be flagged. -/
theorem Placed.took {post : Int64} {ref : Nat} (hp : Placed owner r)
    (hb : r.writers[place]? = some (.take post)) (hm : r.memory.posts[post]? = some ref) :
    Placed owner (r.moved place (.take post) (.clear post ref) (r.memory.take post)) := by
  have hold : ∀ (other : Int64) (found : Nat), (r.memory.take post).posts[other]? = some found →
      r.memory.posts[other]? = some found := by
    intro other found hm'
    rw [Memory.getElem?_posts_take] at hm'
    split at hm'
    case isTrue => cases hm'
    case isFalse => exact hm'
  constructor
  case listed =>
    intro other found hm'
    exact hp.listed other found (hold other found hm')
  case taken =>
    intro other post' found hc hm'
    rw [getElem?_writers_moved hb] at hc
    split at hc
    case isTrue =>
      cases hc
      rw [memory_moved, Memory.getElem?_posts_take, if_pos rfl] at hm'
      cases hm'
    case isFalse => exact hp.taken other post' found hc (hold post' found hm')
  case pending =>
    intro found hlt hf
    rw [memory_moved, Memory.getElem?_posts_take]
    rcases hp.pending found hlt hf with hlisted | hclear
    · -- What the map led to under this post is the entry that is about to be flagged.
      by_cases hsame : owner found = post
      · right
        rw [hsame, hm] at hlisted
        cases hlisted
        refine ⟨place, ?_⟩
        rw [getElem?_writers_moved hb, if_pos rfl, hsame]
      · left
        rw [if_neg hsame]
        exact hlisted
    · exact Or.inr (exists_clear_moved hb (by simp) hclear)

/-- An entry that is flagged was not in the map. -/
theorem Placed.cleared {post : Int64} {ref : Nat} {entry : Entry} (hp : Placed owner r)
    (hh : Held owner r) (hb : r.writers[place]? = some (.clear post ref))
    (hafter : ∀ post ref, after ≠ .clear post ref) :
    Placed owner (r.moved place (.clear post ref) after (r.memory.write ref ⟨entry, true⟩)) := by
  obtain ⟨hlt, hown⟩ := hh.current place _ post ref hb rfl
  constructor
  case listed =>
    intro other found hm
    obtain ⟨hlt', hown', hf⟩ := hp.listed other found hm
    have hne : found ≠ ref := by
      rintro rfl
      rw [← hown', hown] at hm
      exact hp.taken place post found hb hm
    rw [memory_moved, Memory.length_write, Memory.cell_write _ hlt, if_neg hne]
    exact ⟨hlt', hown', hf⟩
  case taken =>
    intro other post' found hc
    exact hp.taken other post' found (getElem?_clear_moved hb hafter hc)
  case pending =>
    intro found hlt' hf
    rw [memory_moved, Memory.length_write] at hlt'
    rw [memory_moved, Memory.cell_write _ hlt] at hf
    split at hf
    case isTrue => cases hf
    case isFalse hne =>
      rcases hp.pending found hlt' hf with hlisted | hclear
      · exact Or.inl hlisted
      · refine Or.inr (exists_clear_moved hb (fun hsame => hne ?_) hclear)
        exact (Writer.clear.inj hsame).2.symm

end Forum.Engagement.Race
