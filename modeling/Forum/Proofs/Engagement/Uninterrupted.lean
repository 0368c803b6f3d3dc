import Mathlib
import Forum.Proofs.Engagement.Removal

/-!
# Calls that are not interrupted

What a call that writes does if it takes its steps in a row. Whatever a race has left before, three
steps are enough, the answer is that of the tally which the map shows, and the map then shows the
tally after the call. Calls that are made one after the other therefore do to shared entries what
they do to a tally.
-/

namespace Forum.Engagement

/-- What an edit does to a tally, it does to the entry of its post. -/
theorem Edit.answer_eq (e : Edit) (t : Tally) : t.answer e.call =
    ((e.apply (t.entry e.post)).1, t.put e.post (e.apply (t.entry e.post)).2) := by
  cases e with
  | commit change =>
    change t.commitVote change = (((Edit.commit change).apply (t.entry change.post)).1,
      t.put change.post ((Edit.commit change).apply (t.entry change.post)).2)
    by_cases hv : (t.entry change.post).votes[change.user]? = change.previous
    · have happly : (Edit.commit change).apply (t.entry change.post) =
          (.committed ((t.entry change.post).score + change.delta),
            (t.entry change.post).record change) := if_pos hv
      rw [happly]
      exact t.commitVote_of_eq ((t.voteOf_eq_entry ..).trans hv)
    · have happly : (Edit.commit change).apply (t.entry change.post) =
          (.conflict, t.entry change.post) := if_neg hv
      rw [happly]
      exact t.commitVote_of_ne fun h => hv ((t.voteOf_eq_entry ..).symm.trans h)
  | adjust post delta => rfl

namespace Memory

/-- What the map is like after every race. -/
structure Tidy (m : Memory) : Prop where
  /-- It leads to entries that are not flagged. -/
  listed : ∀ (post : Int64) (ref : Nat), m.posts[post]? = some ref →
    ref < m.cells.length ∧ (m.cell ref).removed = false
  /-- No two posts have an entry in common. -/
  apart : ∀ (post other : Int64) (ref : Nat), m.posts[post]? = some ref →
    m.posts[other]? = some ref → post = other

/-- Races leave a tidy map. -/
theorem tidy_run (writes : List Write) (schedule : List Nat) :
    (Race.run writes schedule).memory.Tidy := by
  obtain ⟨owner, hs⟩ := Race.exists_sound_run writes schedule
  refine ⟨fun post ref hm => ?_, fun post other ref hm ho => ?_⟩
  · obtain ⟨hlt, -, hf⟩ := hs.placed.listed post ref hm
    exact ⟨hlt, hf⟩
  · obtain ⟨-, hpost, -⟩ := hs.placed.listed post ref hm
    obtain ⟨-, hother, -⟩ := hs.placed.listed other ref ho
    exact hpost.symm.trans hother

variable {m : Memory} {post : Int64} {ref : Nat}

/-- The entries of the tally are those that the map leads to. -/
theorem getElem?_tally (m : Memory) (post : Int64) :
    m.tally.entries[post]? = m.posts[post]?.map fun ref => (m.cell ref).entry :=
  Std.ExtTreeMap.getElem?_map

theorem entry_tally (hm : m.posts[post]? = some ref) : m.tally.entry post = (m.cell ref).entry := by
  rw [Tally.entry, getElem?_tally, hm]
  rfl

theorem entry_tally_of_none (hm : m.posts[post]? = none) : m.tally.entry post = {} := by
  rw [Tally.entry, getElem?_tally, hm]
  rfl

/-- A tally is determined by its entries. -/
private theorem tally_eq {t : Tally}
    (h : ∀ post : Int64, (m.posts[post]?.map fun ref => (m.cell ref).entry) = t.entries[post]?) :
    m.tally = t :=
  congrArg Tally.mk
    (Std.ExtTreeMap.ext_getElem? fun post => (m.getElem?_tally post).trans (h post))

/-- Registering a post puts an empty entry in place. -/
theorem tally_enter (m : Memory) (post : Int64) : (m.enter post).tally = m.tally.put post {} := by
  refine tally_eq fun other => ?_
  rw [Tally.put, FiniteMap.getElem?_insert, getElem?_tally, getElem?_posts_enter]
  simp only [cell_enter]
  split
  case isTrue => rw [Option.map_some, cell_of_le (le_refl _)]
  case isFalse => rfl

/-- Overwriting the entry of a post puts it in place. -/
theorem tally_write (ht : m.Tidy) (hm : m.posts[post]? = some ref) (e : Entry) :
    (m.write ref ⟨e, false⟩).tally = m.tally.put post e := by
  obtain ⟨hlt, -⟩ := ht.listed post ref hm
  refine tally_eq fun other => ?_
  rw [Tally.put, FiniteMap.getElem?_insert, getElem?_tally]
  change (m.posts[other]?.map _) = _
  split
  case isTrue hsame => rw [hsame, hm, Option.map_some, cell_write _ hlt, if_pos rfl]
  case isFalse hne =>
    refine Option.map_congr fun place hp => ?_
    rw [cell_write _ hlt, if_neg]
    rintro rfl
    exact hne (ht.apart other post place hp hm)

/-- Taking a post out of the map and flagging its entry removes it. -/
theorem tally_clear (ht : m.Tidy) (hm : m.posts[post]? = some ref) (c : Cell) :
    ((m.take post).write ref c).tally = m.tally.remove post := by
  obtain ⟨hlt, -⟩ := ht.listed post ref hm
  refine tally_eq fun other => ?_
  rw [Tally.remove, FiniteMap.getElem?_erase, getElem?_tally]
  change ((m.take post).posts[other]?.map _) = _
  rw [getElem?_posts_take]
  split
  case isTrue => rfl
  case isFalse hne =>
    refine Option.map_congr fun place hp => ?_
    have hwrite := cell_write (m := m.take post) c hlt place
    rw [hwrite, if_neg, cell_take]
    rintro rfl
    exact hne (ht.apart other post place hp hm)

end Memory

namespace Race

variable {r : Race} {place : Nat}

/-- A turn of a writer that takes a step. -/
theorem advance_of_step {before after : Writer} {memory : Memory}
    (hb : r.writers[place]? = some before) (hs : before.step r.memory = some (after, memory)) :
    (r.advance place).writers[place]? = some after ∧ (r.advance place).memory = memory := by
  have hadvance : r.advance place = r.moved place before after memory := by
    unfold advance
    rw [hb]
    dsimp only
    rw [hs]
  rw [hadvance, getElem?_writers_moved hb, if_pos rfl]
  exact ⟨rfl, rfl⟩

/-- A turn of a call that has returned. -/
theorem advance_of_returned {call : Call} {reply : call.Reply}
    (hb : r.writers[place]? = some (.returned call reply)) : r.advance place = r := by
  unfold advance
  rw [hb]
  rfl

/-- A turn leaves the other writers as they were. -/
theorem getElem?_writers_advance {other : Nat} (hne : other ≠ place) :
    (r.advance place).writers[other]? = r.writers[other]? := by
  rcases r.advance_cases place with hsame | ⟨before, after, memory, hb, -, hmoved⟩
  · rw [hsame]
  · rw [hmoved, getElem?_writers_moved hb, if_neg hne]

/-- Whether the writer at a place has answered a call as a tally does, which is now shown. -/
def Answered (r : Race) (place : Nat) (t : Tally) (c : Call) : Prop :=
  r.writers[place]? = some (.returned c (t.answer c).1) ∧ r.memory.tally = (t.answer c).2

/-- It stays so when the writer has its turn again. -/
theorem Answered.advance {t : Tally} {c : Call} (h : r.Answered place t c) :
    (r.advance place).Answered place t c := by
  rw [advance_of_returned h.1]
  exact h

/-- An edit of the entry to which the map leads. -/
theorem answered_of_apply {e : Edit} {ref : Nat} (ht : r.memory.Tidy)
    (hm : r.memory.posts[e.post]? = some ref) (hb : r.writers[place]? = some (.apply e ref)) :
    (r.advance place).Answered place r.memory.tally e.call := by
  have hf : (r.memory.cell ref).removed = false := (ht.listed e.post ref hm).2
  have hs : (Writer.apply e ref).step r.memory =
      some (.returned e.call (e.apply (r.memory.cell ref).entry).1,
        r.memory.write ref ⟨(e.apply (r.memory.cell ref).entry).2, false⟩) := by
    rw [Writer.step, if_neg (Bool.eq_false_iff.1 hf)]
  obtain ⟨hreturned, hmemory⟩ := advance_of_step hb hs
  rw [Answered, e.answer_eq, Memory.entry_tally hm, hmemory, ← Memory.tally_write ht hm]
  exact ⟨hreturned, rfl⟩

/-- An edit takes two or three turns in a row. -/
theorem answered_of_lookUp {e : Edit} (hfirst : r.memory.Tidy)
    (hsecond : ((r.advance place).advance place).memory.Tidy)
    (hb : r.writers[place]? = some (.lookUp e)) :
    (((r.advance place).advance place).advance place).Answered place r.memory.tally e.call := by
  cases hm : r.memory.posts[e.post]? with
  | some ref =>
    have hfound : (Writer.lookUp e).step r.memory = some (.apply e ref, r.memory) := by
      rw [Writer.step, hm]
    obtain ⟨happly, hmemory⟩ := advance_of_step hb hfound
    rw [← hmemory] at hfirst hm ⊢
    exact (answered_of_apply hfirst hm happly).advance
  | none =>
    have hmissed : (Writer.lookUp e).step r.memory = some (.enter e, r.memory) := by
      rw [Writer.step, hm]
    obtain ⟨henter, hmemory⟩ := advance_of_step hb hmissed
    rw [← hmemory] at hm
    have hmade : (Writer.enter e).step (r.advance place).memory =
        some (.apply e (r.advance place).memory.cells.length,
          (r.advance place).memory.enter e.post) := by
      rw [Writer.step, hm]
    obtain ⟨happly, hentered⟩ := advance_of_step henter hmade
    have hlisted : ((r.advance place).advance place).memory.posts[e.post]? =
        some (r.advance place).memory.cells.length := by
      rw [hentered, Memory.getElem?_posts_enter, if_pos rfl]
    have hanswered := answered_of_apply hsecond hlisted happly
    -- The new entry is what an unregistered post counts as.
    rw [Answered, hentered, Memory.tally_enter, hmemory, e.answer_eq, Tally.entry_put, if_pos rfl,
      Tally.put_put] at hanswered
    rw [hmemory] at hm
    rw [Answered, e.answer_eq, Memory.entry_tally_of_none hm]
    exact hanswered

/-- A registration takes one turn. -/
theorem answered_of_register {post : Int64} (hb : r.writers[place]? = some (.register post)) :
    (r.advance place).Answered place r.memory.tally (.register post) := by
  have hmem : post ∈ r.memory.tally.entries ↔ (r.memory.posts[post]?).isSome := by
    rw [Std.ExtTreeMap.mem_iff_isSome_getElem?, Memory.getElem?_tally, Option.isSome_map]
  cases hm : r.memory.posts[post]? with
  | some ref =>
    have hanswer : r.memory.tally.answer (.register post) = (false, r.memory.tally) :=
      if_pos (hmem.2 (hm ▸ rfl))
    have hs : (Writer.register post).step r.memory =
        some (.returned (.register post) false, r.memory) := by
      rw [Writer.step, hm]
    obtain ⟨hreturned, hmemory⟩ := advance_of_step hb hs
    rw [Answered, hanswer, hmemory]
    exact ⟨hreturned, rfl⟩
  | none =>
    have hanswer : r.memory.tally.answer (.register post) =
        (true, r.memory.tally.put post {}) :=
      if_neg fun hin => by
        have hsome := hmem.1 hin
        rw [hm] at hsome
        cases hsome
    have hs : (Writer.register post).step r.memory =
        some (.returned (.register post) true, r.memory.enter post) := by
      rw [Writer.step, hm]
    obtain ⟨hreturned, hmemory⟩ := advance_of_step hb hs
    rw [Answered, hanswer, hmemory, Memory.tally_enter]
    exact ⟨hreturned, rfl⟩

/-- A removal takes one turn or two in a row. -/
theorem answered_of_take {post : Int64} (ht : r.memory.Tidy)
    (hb : r.writers[place]? = some (.take post)) :
    ((r.advance place).advance place).Answered place r.memory.tally (.remove post) := by
  have hanswer : r.memory.tally.answer (.remove post) = ((), r.memory.tally.remove post) := rfl
  cases hm : r.memory.posts[post]? with
  | some ref =>
    have htake : (Writer.take post).step r.memory =
        some (.clear post ref, r.memory.take post) := by
      rw [Writer.step, hm]
    obtain ⟨hclear, hmemory⟩ := advance_of_step hb htake
    obtain ⟨hreturned, hcleared⟩ := advance_of_step hclear rfl
    rw [Answered, hanswer, hcleared, hmemory, Memory.tally_clear ht hm]
    exact ⟨hreturned, rfl⟩
  | none =>
    have hs : (Writer.take post).step r.memory =
        some (.returned (.remove post) (), r.memory) := by
      rw [Writer.step, hm]
    obtain ⟨hreturned, hmemory⟩ := advance_of_step hb hs
    have hsame : r.memory.tally.remove post = r.memory.tally :=
      congrArg Tally.mk (FiniteMap.erase_of_none (by rw [Memory.getElem?_tally, hm]; rfl))
    refine Answered.advance ?_
    rw [Answered, hanswer, hmemory, hsame]
    exact ⟨hreturned, rfl⟩

/-- Three turns in a row are enough for a call that has not begun. -/
theorem answered_of_three_turns (hfirst : r.memory.Tidy)
    (hsecond : ((r.advance place).advance place).memory.Tidy) {w : Write}
    (hb : r.writers[place]? = some (.begin w)) :
    (((r.advance place).advance place).advance place).Answered place r.memory.tally w.call := by
  cases w with
  | edit e => exact answered_of_lookUp hfirst hsecond hb
  | register post => exact (answered_of_register hb).advance.advance
  | remove post => exact (answered_of_take hfirst hb).advance

/-- Three turns for each of so many writers, one writer after the other. -/
def inTurn (count : Nat) : List Nat :=
  (List.range count).flatMap fun place => [place, place, place]

theorem run_inTurn_succ (writes : List Write) (count : Nat) :
    run writes (inTurn (count + 1)) =
      (((run writes (inTurn count)).advance count).advance count).advance count := by
  have hschedule : inTurn (count + 1) = inTurn count ++ [count, count, count] := by
    rw [inTurn, List.range_succ, List.flatMap_append]
    rfl
  rw [hschedule, run, List.foldl_append]
  rfl

/-- Calls that take all their turns one after the other do to shared entries what they do to a
tally. -/
theorem tally_run_inTurn (writes : List Write) :
    (run writes (inTurn writes.length)).memory.tally = Tally.after (writes.map Write.call) := by
  -- The calls after the first few have not begun, and the others are those of the tally.
  have hall : ∀ count ≤ writes.length,
      (run writes (inTurn count)).memory.tally = Tally.after ((writes.take count).map Write.call) ∧
        ∀ place, count ≤ place →
          (run writes (inTurn count)).writers[place]? = writes[place]?.map Writer.begin := by
    intro count
    induction count with
    | zero => exact fun _ => ⟨rfl, fun place _ => List.getElem?_map⟩
    | succ count ih =>
      intro hle
      obtain ⟨htally, hwaiting⟩ := ih (Nat.le_of_succ_le hle)
      have hw : writes[count]? = some writes[count] := List.getElem?_eq_getElem hle
      have hb : (run writes (inTurn count)).writers[count]? = some (.begin writes[count]) := by
        rw [hwaiting count (le_refl _), hw, Option.map_some]
      have hsecond : (((run writes (inTurn count)).advance count).advance count).memory.Tidy := by
        rw [← run_concat, ← run_concat]
        exact Memory.tidy_run writes _
      obtain ⟨-, hanswered⟩ :=
        answered_of_three_turns (Memory.tidy_run writes (inTurn count)) hsecond hb
      rw [run_inTurn_succ]
      refine ⟨?_, fun place hlater => ?_⟩
      · rw [hanswered, htally, List.take_add_one, hw, Option.toList_some, List.map_append,
          List.map_singleton, Tally.after_concat]
      · have hne : place ≠ count := by omega
        rw [getElem?_writers_advance hne, getElem?_writers_advance hne,
          getElem?_writers_advance hne, hwaiting place (by omega)]
  rw [(hall writes.length (le_refl _)).1, List.take_length]

end Race

end Forum.Engagement
