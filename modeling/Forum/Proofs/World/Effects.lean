import Mathlib
import Forum.Proofs.Database.Tables
import Forum.Proofs.Engagement.Tally
import Forum.World.State

/-!
# What a question does to a post

A post is registered by some calls and removed by one, and its row is entered by one statement and
deleted by another. An answer can show that there is a row. These are the only ways in which one
question changes what there is of a post in a world, or tells of it.
-/

namespace Forum

namespace Effect

/-- Whether a question registers a post. -/
def enters (post : Int64) : Effect → Prop
  | .engagement _ call => call.enters post
  | _ => False

/-- Whether a question removes a post from the ranking. -/
def removes (post : Int64) : Effect → Prop
  | .engagement _ (.remove other) => other = post
  | _ => False

/-- Whether the answer to a question shows that a post has a row. -/
def shows (post : Int64) : (e : Effect) → Except Fault e.Reply → Prop
  | .rows (.findPost id), .ok (some _) => id = post
  | .rows (.addPost ..), .ok row => row.id = post
  | _, _ => False

/-- Whether the row of a post was deleted by the question that was answered so. -/
def deletes (post : Int64) : (e : Effect) → Except Fault e.Reply → Prop
  | .rows (.deletePost id), .ok () => id = post
  | _, _ => False

/-- What registers a post deletes no row. -/
theorem not_deletes_of_enters {post : Int64} {e : Effect} (h : e.enters post) (other : Int64)
    (reply : Except Fault e.Reply) : ¬ e.deletes other reply := by
  cases e with
  | engagement deadline call => exact id
  | rows | freshId => exact h.elim

/-- It does not remove it either. -/
theorem not_removes_of_enters {post : Int64} {e : Effect} (h : e.enters post) :
    ¬ e.removes post := by
  cases e with
  | engagement deadline call => cases call <;> first | exact id | exact h.elim
  | rows | freshId => exact h.elim

end Effect

namespace Database.Tables

variable (t : Tables) (tokens : Tokens) (now : Timestamp)

/-- A statement keeps a row, unless it deletes it. -/
theorem hasPost_execute {post : Int64} (h : t.HasPost post) (s : Statement) :
    (t.execute tokens now s).2.HasPost post ∨ s = .deletePost post := by
  obtain ⟨row, hrow, hid⟩ := h
  cases s with
  | addUser id username usernameLower =>
    rcases t.addUser_cases ⟨id, username, usernameLower, tokens.draw id, now⟩ with
      ⟨fault, hrefused⟩ | hentered
    · exact .inl ⟨row, by rwa [execute, hrefused], hid⟩
    · exact .inl ⟨row, by rwa [execute, hentered], hid⟩
  | addPost id author title content =>
    by_cases htaken : t.HasPost id
    · exact .inl ⟨row, by rwa [execute, t.addPost_of_hasPost now htaken], hid⟩
    · refine .inl ⟨row, ?_, hid⟩
      rw [execute, t.addPost_of_new now htaken]
      exact List.mem_append_left _ hrow
  | deletePost id =>
    by_cases hsame : id = post
    · exact .inr (congrArg Statement.deletePost hsame)
    · refine .inl ⟨row, ?_, hid⟩
      rw [execute, List.mem_filter, decide_eq_true_eq, hid]
      exact ⟨hrow, Ne.symm hsame⟩
  | findUser | findPost | findPosts | recentPosts | countPosts => exact .inl ⟨row, hrow, hid⟩

end Database.Tables

namespace World

variable (w : World) {post : Int64} {e : Effect}

/-- A question keeps a row, unless it deletes it. -/
theorem hasPost_answer (h : w.tables.HasPost post) :
    (World.answer e w).2.tables.HasPost post ∨ e.deletes post (World.answer e w).1 := by
  cases e with
  | engagement | freshId => exact .inl h
  | rows s =>
    rcases w.tables.hasPost_execute w.tokens w.now h s with hkept | rfl
    · exact .inl hkept
    · exact .inr rfl

/-- What the answer shows is there. -/
theorem hasPost_of_shows (h : e.shows post (World.answer e w).1) :
    (World.answer e w).2.tables.HasPost post := by
  cases e with
  | engagement | freshId => exact h.elim
  | rows s =>
    cases s with
    | findPost id =>
      simp only [World.answer, execute, Database.Tables.execute] at h ⊢
      cases hfound : w.tables.posts.find? (·.id = id) with
      | none => rw [hfound] at h; exact h.elim
      | some row =>
        rw [hfound] at h
        obtain ⟨hrow, hid⟩ := w.tables.hasPost_of_find? hfound
        exact ⟨row, hrow, hid.trans h⟩
    | addPost id author title content =>
      simp only [World.answer, execute, Database.Tables.execute] at h ⊢
      by_cases htaken : w.tables.HasPost id
      · rw [w.tables.addPost_of_hasPost w.now htaken] at h
        exact h.elim
      · rw [w.tables.addPost_of_new w.now htaken] at h ⊢
        exact ⟨_, List.mem_concat_self, h⟩
    | findUser | addUser | findPosts | recentPosts | countPosts | deletePost => exact h.elim

/-- A post is registered after a question that registers it, and if it was before and is not
removed. -/
theorem registered_answer : ((World.answer e w).2.tally.scoreOf post).isSome ↔
    e.enters post ∨ (w.tally.scoreOf post).isSome ∧ ¬ e.removes post := by
  cases e with
  | rows | freshId => simp [World.answer, execute, freshId, Effect.enters, Effect.removes]
  | engagement deadline call =>
    have hremoves : Effect.removes post (.engagement deadline call) ↔ call = .remove post := by
      cases call <;> simp [Effect.removes]
    rw [hremoves]
    exact w.tally.isSome_scoreOf_answer post call

end World

end Forum
