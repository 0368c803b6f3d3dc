import Mathlib
import Forum.Engagement.Writer
import Forum.Proofs.Engagement.Consistency

/-!
# Writers that take turns

Any number of writers share a store. A schedule says whose turn it is; at a turn one writer takes
one step, in which it holds one lock, and all others wait. Every schedule is allowed. The steps are
written down, and so are the edits that took effect on each entry. `Writer.Stepped` lists the five
things that a step can do to the store; what a race preserves is shown by cases over them.
-/

namespace Forum.Engagement

/-! ## What edits leave in an entry -/

namespace Edit

/-- What an edit adds to the score by adjusting it. -/
def adjustment? : Edit → Option Int64
  | commit _ => none
  | adjust _ delta => some delta

/-- The vote of a user that an edit records. -/
def vote? (user : Int64) : Edit → Option Direction
  | commit change => if change.user = user then some change.next else none
  | adjust .. => none

end Edit

/-- Whether an answer says that an entry was edited. -/
def Call.edited : (c : Call) → c.Reply → Bool
  | .commitVote _, .committed _ => true
  | .adjustScore .., _ => true
  | _, _ => false

/-- Whether an entry is what some edits leave that took effect on it, one after the other. -/
structure Entry.Records (e : Entry) (edits : List Edit) : Prop where
  /-- The score is the sum of the votes and the adjustments. -/
  score_eq : e.score = e.balance + (edits.filterMap Edit.adjustment?).sum
  /-- The vote of each user is the last one that was recorded. -/
  vote_eq : ∀ user, e.votes[user]? = (edits.filterMap (Edit.vote? user)).getLast?

/-- A new entry is what no edits leave. -/
theorem Entry.records_nil : ({} : Entry).Records [] where
  score_eq := Entry.balance_empty.symm
  vote_eq _ := Std.ExtTreeMap.getElem?_empty

/-- A change of the recorded vote is recorded. -/
theorem Entry.Records.commit {e : Entry} {edits : List Edit} (hr : e.Records edits)
    {change : Vote.Change} (hv : e.votes[change.user]? = change.previous) :
    (e.record change).Records (edits ++ [.commit change]) where
  score_eq := by
    have hnone : [Edit.commit change].filterMap Edit.adjustment? = [] := rfl
    rw [List.filterMap_append, hnone, List.append_nil, Entry.balance_record e hv, Entry.record,
      hr.score_eq]
    grind
  vote_eq user := by
    rw [Entry.record, FiniteMap.getElem?_insert, List.filterMap_append, List.getLast?_append,
      ← hr.vote_eq]
    by_cases huser : user = change.user
    · subst huser
      have hvote : (Edit.commit change).vote? change.user = some change.next := if_pos rfl
      rw [if_pos rfl, List.filterMap_cons_some hvote]
      rfl
    · have hvote : (Edit.commit change).vote? user = none := if_neg (Ne.symm huser)
      rw [if_neg huser, List.filterMap_cons_none hvote]
      rfl

/-- An adjustment is. -/
theorem Entry.Records.adjust {e : Entry} {edits : List Edit} (hr : e.Records edits)
    (post delta : Int64) : (e.adjust delta).Records (edits ++ [.adjust post delta]) where
  score_eq := by
    have hsome : [Edit.adjust post delta].filterMap Edit.adjustment? = [delta] := rfl
    have hb : (e.adjust delta).balance = e.balance := rfl
    rw [List.filterMap_append, hsome, List.sum_append, List.sum_cons, List.sum_nil,
      Int64.add_zero, hb, Entry.adjust, hr.score_eq, Int64.add_assoc]
  vote_eq user := by
    have hnone : [Edit.adjust post delta].filterMap (Edit.vote? user) = [] := rfl
    rw [List.filterMap_append, hnone, List.append_nil]
    exact hr.vote_eq user

/-- An edit that takes effect is recorded, and any other leaves the entry as it is. -/
theorem Entry.Records.apply {e : Entry} {edits : List Edit} (hr : e.Records edits) (edit : Edit) :
    (edit.apply e).2.Records
      (edits ++ if edit.call.edited (edit.apply e).1 then [edit] else []) := by
  cases edit with
  | commit change =>
    by_cases hv : e.votes[change.user]? = change.previous
    · have happly : (Edit.commit change).apply e =
          (.committed (e.score + change.delta), e.record change) := if_pos hv
      rw [happly]
      exact hr.commit hv
    · have happly : (Edit.commit change).apply e = (.conflict, e) := if_neg hv
      rw [happly]
      exact (List.append_nil edits).symm ▸ hr
  | adjust post delta => exact hr.adjust post delta

/-! ## The store before and after -/

namespace Memory

variable (m : Memory) (post other : Int64) (ref place : Nat)

/-- Behind the references that are not given out yet are new entries. -/
theorem cell_of_le {m : Memory} {ref : Nat} (h : m.cells.length ≤ ref) : m.cell ref = {} := by
  rw [cell, List.getD_eq_getElem?_getD, List.getElem?_eq_none h, Option.getD_none]

/-- Giving one of them out changes none. -/
@[simp]
theorem cell_enter : (m.enter post).cell ref = m.cell ref := by
  rw [cell, cell, enter, List.getD_eq_getElem?_getD, List.getD_eq_getElem?_getD,
    List.getElem?_append]
  split
  case isTrue => rfl
  case isFalse hlt =>
    rw [List.getElem?_eq_none (Nat.le_of_not_lt hlt)]
    cases ref - m.cells.length <;> rfl

@[simp]
theorem cell_take : (m.take post).cell ref = m.cell ref :=
  rfl

/-- Overwriting an entry changes no other. -/
theorem cell_write {m : Memory} {ref : Nat} (c : Cell) (h : ref < m.cells.length) (place : Nat) :
    (m.write ref c).cell place = if place = ref then c else m.cell place := by
  rw [cell, cell, write, List.getD_eq_getElem?_getD, List.getElem?_set]
  by_cases hsame : ref = place
  · rw [if_pos hsame, if_pos h, if_pos hsame.symm, Option.getD_some]
  · rw [if_neg hsame, if_neg (Ne.symm hsame), ← List.getD_eq_getElem?_getD]

@[simp]
theorem length_enter : (m.enter post).cells.length = m.cells.length + 1 :=
  List.length_append

@[simp]
theorem length_write (c : Cell) : (m.write ref c).cells.length = m.cells.length :=
  List.length_set

/-- The map after a registration. -/
theorem getElem?_posts_enter : (m.enter post).posts[other]? =
    if other = post then some m.cells.length else m.posts[other]? :=
  FiniteMap.getElem?_insert ..

/-- The map after a post was taken out. -/
theorem getElem?_posts_take :
    (m.take post).posts[other]? = if other = post then none else m.posts[other]? :=
  FiniteMap.getElem?_erase ..

end Memory

/-! ## Steps -/

namespace Writer

/-- The reference that a writer holds, with the post that it found there. -/
def holds : Writer → Option (Int64 × Nat)
  | apply e ref => some (e.post, ref)
  | clear post ref => some (post, ref)
  | _ => none

/-- Whether the call has returned with the answer that an entry was edited. -/
def edited : Writer → Bool
  | returned c reply => c.edited reply
  | _ => false

/-- What a step can do, from the state of a writer to its next one and to the store it leaves. -/
inductive Stepped (m : Memory) : Writer → Writer → Memory → Prop
  /-- It reads the map or a flag. A reference that it fetches is that of the map. -/
  | looked {before after : Writer}
      (fetched : ∀ post ref, after.holds = some (post, ref) → m.posts[post]? = some ref)
      (before_ne : ∀ post ref, before ≠ clear post ref)
      (after_ne : ∀ post ref, after ≠ clear post ref)
      (quiet : after.edited = false) (same : after.call = before.call) : Stepped m before after m
  /-- It registers a post, and fetches the new entry or none. -/
  | entered {before after : Writer} {post : Int64} (unknown : m.posts[post]? = none)
      (fetched : ∀ other ref, after.holds = some (other, ref) →
        other = post ∧ ref = m.cells.length)
      (before_ne : ∀ post ref, before ≠ clear post ref)
      (after_ne : ∀ post ref, after ≠ clear post ref)
      (quiet : after.edited = false) (same : after.call = before.call) :
      Stepped m before after (m.enter post)
  /-- It edits an entry that is not flagged. -/
  | applied (e : Edit) (ref : Nat) (unflagged : (m.cell ref).removed = false) :
      Stepped m (apply e ref) (returned e.call (e.apply (m.cell ref).entry).1)
        (m.write ref ⟨(e.apply (m.cell ref).entry).2, false⟩)
  /-- It takes a post out of the map. -/
  | took (post : Int64) (ref : Nat) (known : m.posts[post]? = some ref) :
      Stepped m (take post) (clear post ref) (m.take post)
  /-- It flags an entry. -/
  | cleared (post : Int64) (ref : Nat) :
      Stepped m (clear post ref) (returned (.remove post) ()) (m.write ref (m.cell ref).clear)

/-- A writer that has found its post in the map holds the reference of the map. -/
private theorem fetched_apply {m : Memory} {e : Edit} {found : Nat}
    (hp : m.posts[e.post]? = some found) (post : Int64) (ref : Nat)
    (hh : (apply e found).holds = some (post, ref)) : m.posts[post]? = some ref := by
  cases hh
  exact hp

/-- No step does anything else. -/
theorem stepped_of_step {m m' : Memory} {before after : Writer}
    (hs : before.step m = some (after, m')) : Stepped m before after m' := by
  cases before with
  | lookUp e =>
    rw [step] at hs
    split at hs
    case h_1 ref hp =>
      cases hs
      exact .looked (fetched_apply hp) (by simp) (by simp) rfl rfl
    case h_2 =>
      cases hs
      exact .looked (by simp [holds]) (by simp) (by simp) rfl rfl
  | enter e =>
    rw [step] at hs
    split at hs
    case h_1 ref hp =>
      cases hs
      exact .looked (fetched_apply hp) (by simp) (by simp) rfl rfl
    case h_2 hp =>
      cases hs
      refine .entered hp (fun other ref hh => ?_) (by simp) (by simp) rfl rfl
      cases hh
      exact ⟨rfl, rfl⟩
  | apply e ref =>
    rw [step] at hs
    split at hs
    case isTrue =>
      cases hs
      exact .looked (by simp [holds]) (by simp) (by simp) rfl rfl
    case isFalse hf =>
      cases hs
      exact .applied e ref (Bool.eq_false_iff.2 hf)
  | register post =>
    rw [step] at hs
    split at hs
    case h_1 =>
      cases hs
      exact .looked (by simp [holds]) (by simp) (by simp) rfl rfl
    case h_2 hp =>
      cases hs
      exact .entered hp (by simp [holds]) (by simp) (by simp) rfl rfl
  | take post =>
    rw [step] at hs
    split at hs
    case h_1 ref hp =>
      cases hs
      exact .took post ref hp
    case h_2 =>
      cases hs
      exact .looked (by simp [holds]) (by simp) (by simp) rfl rfl
  | clear post ref =>
    cases hs
    exact .cleared post ref
  | returned c reply => cases hs

/-- A writer stays busy with the same call. -/
theorem Stepped.call_eq {m m' : Memory} {before after : Writer} (hs : before.Stepped m after m') :
    after.call = before.call := by
  cases hs with
  | looked _ _ _ _ same => exact same
  | entered _ _ _ _ _ same => exact same
  | applied | took | cleared => rfl

end Writer

/-! ## Turns -/

/-- A step that was taken. -/
structure Move where
  /-- The place of the writer. -/
  place : Nat
  /-- What was left of its call. -/
  before : Writer
  /-- What is left of it now. -/
  after : Writer

/-- The edit that took effect on the entry behind a reference. -/
def Move.edit? (ref : Nat) (move : Move) : Option Edit :=
  match move.before with
  | .apply e place => if place = ref ∧ move.after.edited then some e else none
  | _ => none

/-- It was the step of a writer that held the reference. -/
theorem Move.before_of_edit? {ref : Nat} {move : Move} {e : Edit} (he : move.edit? ref = some e) :
    move.before = .apply e ref ∧ move.after.edited := by
  unfold edit? at he
  split at he
  case h_1 hb =>
    split at he
    case isTrue hsame =>
      cases he
      exact ⟨hsame.1 ▸ hb, hsame.2⟩
    case isFalse => cases he
  case h_2 => cases he

/-- Writers that take turns. -/
structure Race where
  /-- What they share. -/
  memory : Memory
  /-- What is left of each call. -/
  writers : List Writer
  /-- The steps so far, in order. -/
  moves : List Move

namespace Race

/-- The edits that took effect on the entry behind a reference, in order. -/
def edits (r : Race) (ref : Nat) : List Edit :=
  r.moves.filterMap (Move.edit? ref)

/-- The race after a step of the writer at a place. -/
def moved (r : Race) (place : Nat) (before after : Writer) (memory : Memory) : Race :=
  ⟨memory, r.writers.set place after, r.moves ++ [⟨place, before, after⟩]⟩

/-- Lets the writer at a place take a step. Nothing happens if its call has returned, or if there is
no such writer. -/
def advance (r : Race) (place : Nat) : Race :=
  match r.writers[place]? with
  | none => r
  | some before =>
    match before.step r.memory with
    | none => r
    | some (after, memory) => r.moved place before after memory

/-- Calls that begin on an empty store and take a turn for each place in the schedule. -/
def run (writes : List Write) (schedule : List Nat) : Race :=
  schedule.foldl advance ⟨{}, writes.map Writer.begin, []⟩

/-- Whether all calls have returned. -/
def Finished (r : Race) : Prop :=
  ∀ w ∈ r.writers, ∃ call reply, w = .returned call reply

/-- A turn changes nothing or is a step of a writer. -/
theorem advance_cases (r : Race) (place : Nat) :
    r.advance place = r ∨ ∃ before after memory, r.writers[place]? = some before ∧
      before.Stepped r.memory after memory ∧
        r.advance place = r.moved place before after memory := by
  unfold advance
  split
  case h_1 => exact Or.inl rfl
  case h_2 before hb =>
    split
    case h_1 => exact Or.inl rfl
    case h_2 after memory hs =>
      exact Or.inr ⟨before, after, memory, hb, Writer.stepped_of_step hs, rfl⟩

/-- What holds at first and is kept by every turn holds after every schedule. -/
theorem run_induction {P : Race → Prop} {writes : List Write}
    (start : P ⟨{}, writes.map Writer.begin, []⟩) (step : ∀ r place, P r → P (r.advance place))
    (schedule : List Nat) : P (run writes schedule) := by
  induction schedule using List.reverseRecOn with
  | nil => exact start
  | append_singleton schedule place ih =>
    rw [run, List.foldl_append]
    exact step _ place ih

section Moved

variable {r : Race} {place : Nat} {before after : Writer} {memory : Memory}

@[simp]
theorem memory_moved : (r.moved place before after memory).memory = memory :=
  rfl

/-- A step changes what is left of one call. -/
theorem getElem?_writers_moved (hb : r.writers[place]? = some before) (other : Nat) :
    (r.moved place before after memory).writers[other]? =
      if other = place then some after else r.writers[other]? := by
  have hlt : place < r.writers.length := (List.getElem?_eq_some_iff.1 hb).1
  rw [moved]
  dsimp only
  split
  case isTrue hsame => rw [hsame, List.getElem?_set_self hlt]
  case isFalse hother => rw [List.getElem?_set_ne (Ne.symm hother)]

/-- A step adds the edit that took effect, if there is one. -/
theorem edits_moved (ref : Nat) : (r.moved place before after memory).edits ref =
    r.edits ref ++ ((⟨place, before, after⟩ : Move).edit? ref).toList := by
  rw [edits, moved, List.filterMap_append]
  cases he : (⟨place, before, after⟩ : Move).edit? ref with
  | none => rw [List.filterMap_cons_none he]; rfl
  | some e => rw [List.filterMap_cons_some he]; rfl

/-- A step that does not return from an edit adds none. -/
theorem edits_moved_of_quiet (hq : after.edited = false) (ref : Nat) :
    (r.moved place before after memory).edits ref = r.edits ref := by
  rw [edits_moved]
  cases he : (⟨place, before, after⟩ : Move).edit? ref with
  | none => exact List.append_nil _
  | some e => exact absurd (Move.before_of_edit? he).2 (Bool.eq_false_iff.1 hq)

/-- A step in a race after one more is the new one or one of those before. -/
theorem split_moves {moves earlier later : List Move} {new move : Move}
    (hm : moves ++ [new] = earlier ++ move :: later) :
    (move = new ∧ later = []) ∨
      ∃ rest, later = rest ++ [new] ∧ moves = earlier ++ move :: rest := by
  rcases List.eq_nil_or_concat' later with rfl | ⟨rest, final, rfl⟩
  · obtain ⟨-, hlast⟩ := List.append_inj' hm rfl
    exact Or.inl ⟨(List.cons.inj hlast).1.symm, rfl⟩
  · rw [← List.cons_append, ← List.append_assoc] at hm
    obtain ⟨hrest, hlast⟩ := List.append_inj' hm rfl
    cases hlast
    exact Or.inr ⟨rest, rfl, hrest⟩

end Moved

end Race

end Forum.Engagement
