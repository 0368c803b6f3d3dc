import Mathlib
import Forum.Identifier.Generator
import Forum.Proofs.Database.Tables
import Forum.Proofs.Engagement.Request
import Forum.Proofs.Service.Programs

/-!
# Posts between two stores

A post is a row of the database and an entry of the engagement store, and the two are written one
after the other. Any question on the way may fail, without an effect of its own. Then writing or
deleting a post fails as a whole and nothing has changed, with two exceptions: without automatic
registration a post whose registration fails keeps its row, and a post whose removal from the
ranking fails has lost its row already. In the second case the deletion cannot be repeated, because
it begins with looking up the row. Nothing is said about a store that takes part in a call that it
reports as failed.
-/

namespace Forum.Posts

open Database (Tables)

/-- An engagement store of any kind. -/
structure Store (σ : Type) where
  /-- The answer to a call, and what the store then keeps. -/
  answer : σ → (c : Engagement.Call) → Except Fault c.Reply × σ
  /-- A call that fails has no effect. -/
  kept : ∀ s c fault, (answer s c).1 = .error fault → (answer s c).2 = s

/-- The store of a single process, whose calls do not fail of themselves. -/
def Store.inProcess : Store Engagement.Tally where
  answer := Engagement.Tally.inProcess
  kept := fun _ _ _ h => nomatch h

/-- What surrounds the posts. -/
structure Premises (σ : Type) where
  /-- The rows. -/
  tables : Tables
  /-- What the engagement store keeps. -/
  engagement : σ
  /-- The source of identifiers. -/
  generator : Identifier.Generator
  /-- Its clock. -/
  clock : Identifier.Clock
  /-- The questions so far with their answers, in order. -/
  asked : List ((e : Effect) × Except Fault e.Reply)
  /-- The source of tokens. -/
  [tokens : Database.Tokens]

namespace Premises

variable {σ : Type} (store : Store σ) (now : Timestamp)

/-- The answer to a question that does not fail from outside. -/
def serve : (e : Effect) → Premises σ → Except Fault e.Reply × Premises σ
  | .engagement _ call, p =>
    let (reply, engagement) := store.answer p.engagement call
    (reply, { p with engagement := engagement })
  | .rows statement, p =>
    let (reply, tables) := p.tables.execute p.tokens now statement
    (reply, { p with tables := tables })
  | .freshId, p =>
    let (result, generator, clock) := p.generator.generate p.clock
    (result.mapError .identifier, { p with generator := generator, clock := clock })

/-- The answer to a question that may fail from outside: a function says which questions do, counted
from zero, and with which fault. -/
def reply (failing : Nat → Option Fault) (e : Effect) (p : Premises σ) :
    Except Fault e.Reply × Premises σ :=
  match failing p.asked.length with
  | some fault => (.error fault, p)
  | none => serve store now e p

/-- Answers a question and writes it down. -/
def answer (failing : Nat → Option Fault) (e : Effect) (p : Premises σ) :
    Except Fault e.Reply × Premises σ :=
  let (reply, after) := reply store now failing e p
  (reply, { after with asked := p.asked ++ [⟨e, reply⟩] })

/-- Both stores are as they were. -/
structure Unchanged (p after : Premises σ) : Prop where
  /-- The rows are. -/
  tables : after.tables = p.tables
  /-- What the engagement store keeps is. -/
  engagement : after.engagement = p.engagement

/-- Writing a post ended after its row was entered, because the registration failed. -/
structure HalfWritten (deadline : Nat) (fault : Fault) (p after : Premises σ) : Prop where
  /-- There is one more row, and the last question was the registration of its post. -/
  tables : ∃ row : Post, after.tables = { p.tables with posts := p.tables.posts ++ [row] } ∧
    after.asked.getLast? = some ⟨.engagement deadline (.register row.id), .error fault⟩
  /-- The engagement store is as it was. -/
  engagement : after.engagement = p.engagement

/-- Deleting a post ended after its row was deleted, because the removal failed. -/
structure HalfDeleted (deadline : Nat) (id : Int64) (fault : Fault) (p after : Premises σ) :
    Prop where
  /-- There was a row. -/
  found : ∃ row ∈ p.tables.posts, row.id = id
  /-- It is gone. -/
  tables : after.tables = { p.tables with posts := p.tables.posts.filter (·.id ≠ id) }
  /-- The last question was the removal of the post. -/
  asked : after.asked.getLast? = some ⟨.engagement deadline (.remove id), .error fault⟩
  /-- The engagement store is as it was. -/
  engagement : after.engagement = p.engagement

variable {store now} {failing : Nat → Option Fault} {p after : Premises σ}

/-- One change of neither store after another. -/
theorem Unchanged.trans {q : Premises σ} (h : p.Unchanged q) (h' : q.Unchanged after) :
    p.Unchanged after :=
  ⟨h'.tables.trans h.tables, h'.engagement.trans h.engagement⟩

/-- A question is written down with its answer. It failed from outside, without an effect, or it was
served. -/
theorem answer_cases {e : Effect} {reply : Except Fault e.Reply}
    (h : answer store now failing e p = (reply, after)) :
    after.asked.getLast? = some ⟨e, reply⟩ ∧
      ((∃ fault, reply = .error fault) ∧ p.Unchanged after ∨
        reply = (serve store now e p).1 ∧ (serve store now e p).2.Unchanged after) := by
  rw [answer, Premises.reply] at h
  cases hf : failing p.asked.length with
  | some fault =>
    rw [hf, Prod.mk.injEq] at h
    obtain ⟨rfl, rfl⟩ := h
    exact ⟨List.getLast?_concat, .inl ⟨⟨fault, rfl⟩, rfl, rfl⟩⟩
  | none =>
    rw [hf, Prod.mk.injEq] at h
    obtain ⟨rfl, rfl⟩ := h
    exact ⟨List.getLast?_concat, .inr ⟨rfl, rfl, rfl⟩⟩

/-- Asking for an identifier changes neither store. -/
theorem unchanged_freshId {reply : Except Fault Int64}
    (h : answer store now failing .freshId p = (reply, after)) : p.Unchanged after := by
  obtain ⟨-, ⟨-, hkept⟩ | ⟨-, hserved⟩⟩ := answer_cases h
  · exact hkept
  · exact ⟨hserved.tables, hserved.engagement⟩

/-- A statement leaves the engagement store alone. -/
theorem engagement_rows {s : Database.Statement} {reply : Except Fault s.Reply}
    (h : answer store now failing (.rows s) p = (reply, after)) :
    after.engagement = p.engagement := by
  obtain ⟨-, ⟨-, hkept⟩ | ⟨-, hserved⟩⟩ := answer_cases h
  · exact hkept.engagement
  · exact hserved.engagement

/-- A statement that only reads leaves both stores alone. -/
theorem unchanged_of_reads {s : Database.Statement} {reply : Except Fault s.Reply} (hr : s.reads)
    (h : answer store now failing (.rows s) p = (reply, after)) : p.Unchanged after := by
  obtain ⟨-, ⟨-, hkept⟩ | ⟨-, hserved⟩⟩ := answer_cases h
  · exact hkept
  · exact ⟨hserved.tables.trans (p.tables.execute_of_reads p.tokens now hr), hserved.engagement⟩

/-- A call that fails changes neither store. -/
theorem unchanged_of_call_error {deadline : Nat} {c : Engagement.Call} {fault : Fault}
    (h : answer store now failing (.engagement deadline c) p = (.error fault, after)) :
    p.Unchanged after := by
  obtain ⟨-, ⟨-, hkept⟩ | ⟨hreply, hserved⟩⟩ := answer_cases h
  · exact hkept
  · exact ⟨hserved.tables, hserved.engagement.trans (store.kept _ c fault hreply.symm)⟩

/-- A row that a look-up finds is in the table. -/
theorem hasPost_of_findPost {id : Int64} {row : Post}
    (h : answer store now failing (.rows (.findPost id)) p = (.ok (some row), after)) :
    p.tables.HasPost id := by
  obtain ⟨-, ⟨⟨fault, hreply⟩, -⟩ | ⟨hreply, -⟩⟩ := answer_cases h
  · cases hreply
  · have hfound : p.tables.posts.find? (·.id = id) = some row := (Except.ok.inj hreply).symm
    exact ⟨row, p.tables.hasPost_of_find? hfound⟩

/-- A statement that enters a post and fails changes nothing. -/
theorem unchanged_of_addPost_error {id author : Int64} {title content : String} {fault : Fault}
    (h : answer store now failing (.rows (.addPost id author title content)) p =
      (.error fault, after)) : p.Unchanged after := by
  obtain ⟨-, ⟨-, hkept⟩ | ⟨hreply, hserved⟩⟩ := answer_cases h
  · exact hkept
  · rw [serve, Tables.execute] at hreply hserved
    by_cases hp : p.tables.HasPost id
    · rw [p.tables.addPost_of_hasPost now hp] at hserved
      exact ⟨hserved.tables, hserved.engagement⟩
    · rw [p.tables.addPost_of_new now hp] at hreply
      cases hreply

/-- One that succeeds adds its row. -/
theorem tables_of_addPost_ok {id author : Int64} {title content : String} {row : Post}
    (h : answer store now failing (.rows (.addPost id author title content)) p =
      (.ok row, after)) :
    after.tables = { p.tables with posts := p.tables.posts ++ [row] } := by
  obtain ⟨-, ⟨⟨fault, hreply⟩, -⟩ | ⟨hreply, hserved⟩⟩ := answer_cases h
  · cases hreply
  · rw [serve, Tables.execute] at hreply hserved
    by_cases hp : p.tables.HasPost id
    · rw [p.tables.addPost_of_hasPost now hp] at hreply
      cases hreply
    · rw [p.tables.addPost_of_new now hp] at hreply hserved
      rw [hserved.tables, Except.ok.inj hreply]

/-- A statement that deletes a post and fails changes nothing. -/
theorem unchanged_of_deletePost_error {id : Int64} {fault : Fault}
    (h : answer store now failing (.rows (.deletePost id)) p = (.error fault, after)) :
    p.Unchanged after := by
  obtain ⟨-, ⟨-, hkept⟩ | ⟨hreply, -⟩⟩ := answer_cases h
  · exact hkept
  · cases hreply

/-- One that succeeds leaves all other rows. -/
theorem tables_of_deletePost_ok {id : Int64}
    (h : answer store now failing (.rows (.deletePost id)) p = (.ok (), after)) :
    after.tables = { p.tables with posts := p.tables.posts.filter (·.id ≠ id) } := by
  obtain ⟨-, ⟨⟨fault, hreply⟩, -⟩ | ⟨-, hserved⟩⟩ := answer_cases h
  · cases hreply
  · exact hserved.tables

end Premises

variable {σ : Type} {store : Store σ} {now : Timestamp} {failing : Nat → Option Fault}
  {rules : Rules} {fault : Fault} {p after : Premises σ}

open Premises

/-- Writing a post that fails after its row was entered has changed nothing since then: the
registration failed, and posts are not registered automatically. -/
theorem afterAddPost_error {post : Post}
    (h : (afterAddPost rules (.ok post)).run (answer store now failing) p = (.error fault, after)) :
    rules.autoRegister = false ∧ p.Unchanged after ∧
      after.asked.getLast? =
        some ⟨.engagement rules.deadline (.register post.id), .error fault⟩ := by
  rw [afterAddPost, Workflow.run_ask] at h
  rcases hr : answer store now failing (.engagement rules.deadline (.register post.id)) p with
    ⟨problem | fresh, q⟩
  · simp only [hr, afterRegister, Workflow.run_done, Prod.mk.injEq] at h
    obtain ⟨hresult, rfl⟩ := h
    split at hresult
    · cases hresult
    · next hauto =>
      cases hresult
      exact ⟨Bool.eq_false_iff.2 hauto, unchanged_of_call_error hr, (answer_cases hr).1⟩
  · simp [hr, afterRegister, Workflow.run_done] at h

/-- Writing a post that fails has changed nothing, or without automatic registration it has entered
the row. -/
theorem create_error {author : Int64} {draft : Draft}
    (h : (create rules author draft).run.run (answer store now failing) p = (.error fault, after)) :
    p.Unchanged after ∨
      rules.autoRegister = false ∧ p.HalfWritten rules.deadline fault after := by
  cases hd : LengthRule.check draft.checks with
  | error problem =>
    rw [create_run_of_broken rules hd, Workflow.run_done, Prod.mk.injEq] at h
    exact .inl ⟨congrArg Premises.tables h.2.symm, congrArg Premises.engagement h.2.symm⟩
  | ok =>
    rw [create_run_of_checked rules hd, Workflow.run_ask] at h
    rcases hid : answer store now failing .freshId p with ⟨problem | id, q⟩
    · simp only [hid, afterFreshId, Workflow.run_done, Prod.mk.injEq] at h
      exact .inl (h.2 ▸ unchanged_freshId hid)
    · simp only [hid, afterFreshId, Workflow.run_ask] at h
      rcases hrow : answer store now failing (.rows (.addPost id author draft.title draft.content))
        q with ⟨problem | row, q'⟩
      · simp only [hrow, afterAddPost, Workflow.run_done, Prod.mk.injEq] at h
        exact .inl ((unchanged_freshId hid).trans (h.2 ▸ unchanged_of_addPost_error hrow))
      · rw [hrow] at h
        obtain ⟨hauto, hkept, hlast⟩ := afterAddPost_error h
        refine .inr ⟨hauto, ⟨row, ?_, hlast⟩, ?_⟩
        · rw [hkept.tables, tables_of_addPost_ok hrow, (unchanged_freshId hid).tables]
        · rw [hkept.engagement, engagement_rows hrow, (unchanged_freshId hid).engagement]

/-- A deletion that fails has changed nothing, or it has deleted the row. -/
theorem delete_error {id user : Int64}
    (h : (delete rules id user).run.run (answer store now failing) p = (.error fault, after)) :
    p.Unchanged after ∨ p.HalfDeleted rules.deadline id fault after := by
  have hreads : Database.Statement.reads (.findPost id) := trivial
  rw [delete_run, Workflow.run_ask] at h
  rcases hfind : answer store now failing (.rows (.findPost id)) p with ⟨problem | _ | row, q⟩
  · simp only [hfind, afterLookUp, Workflow.run_done, Prod.mk.injEq] at h
    exact .inl (h.2 ▸ unchanged_of_reads hreads hfind)
  · simp only [hfind, afterLookUp, Workflow.run_done, Prod.mk.injEq] at h
    exact .inl (h.2 ▸ unchanged_of_reads hreads hfind)
  · have hlooked := unchanged_of_reads hreads hfind
    simp only [hfind, afterLookUp] at h
    split at h
    · rw [Workflow.run_done, Prod.mk.injEq] at h
      exact .inl (h.2 ▸ hlooked)
    · rw [Workflow.run_ask] at h
      rcases hrow : answer store now failing (.rows (.deletePost id)) q with ⟨problem | ⟨⟩, q'⟩
      · simp only [hrow, afterDeletePost, Workflow.run_done, Prod.mk.injEq] at h
        exact .inl (hlooked.trans (h.2 ▸ unchanged_of_deletePost_error hrow))
      · simp only [hrow, afterDeletePost, Workflow.run_ask, Workflow.run_done] at h
        have hkept := unchanged_of_call_error h
        refine .inr ⟨hasPost_of_findPost hfind, ?_, (answer_cases h).1, ?_⟩
        · rw [hkept.tables, tables_of_deletePost_ok hrow, hlooked.tables]
        · rw [hkept.engagement, engagement_rows hrow, hlooked.engagement]

/-- A post without a row cannot be deleted. -/
theorem delete_of_absent {id : Int64} (h : ¬ p.tables.HasPost id) (user : Int64) :
    ((delete rules id user).run.run (answer store now failing) p).1 ≠ .ok () := by
  rw [delete_run, Workflow.run_ask]
  rcases hfind : answer store now failing (.rows (.findPost id)) p with ⟨problem | _ | row, q⟩
  · exact fun hok => nomatch hok
  · exact fun hok => nomatch hok
  · exact absurd (hasPost_of_findPost hfind) h

/-- A deletion that ended after its row was deleted has nothing left to look up. -/
theorem Premises.HalfDeleted.absent {id : Int64}
    (h : p.HalfDeleted rules.deadline id fault after) : ¬ after.tables.HasPost id := by
  rintro ⟨row, hrow, hid⟩
  rw [h.tables, List.mem_filter, decide_eq_true_eq] at hrow
  exact hrow.2 hid

/-- Writing and deleting a post with any engagement store, when any questions fail. One that ends in
a fault has changed neither store, with two exceptions. Without automatic registration a failing
registration leaves the row; and a failing removal leaves the entry of a post whose row is gone, and
the deletion cannot be made up for by repeating it. -/
theorem unchanged_or_half_done (store : Store σ) (now : Timestamp) (failing : Nat → Option Fault)
    (rules : Rules) (p : Premises σ) :
    (∀ author draft fault after,
      (create rules author draft).run.run (answer store now failing) p = (.error fault, after) →
        p.Unchanged after ∨
          rules.autoRegister = false ∧ p.HalfWritten rules.deadline fault after) ∧
    (∀ id user fault after,
      (delete rules id user).run.run (answer store now failing) p = (.error fault, after) →
        p.Unchanged after ∨
          p.HalfDeleted rules.deadline id fault after ∧
            ∀ failing', ((delete rules id user).run.run (answer store now failing') after).1 ≠
              .ok ()) := by
  refine ⟨fun author draft fault after h => create_error h, fun id user fault after h => ?_⟩
  rcases delete_error h with hkept | hhalf
  · exact .inl hkept
  · exact .inr ⟨hhalf, fun failing' => delete_of_absent hhalf.absent user⟩

/-- Noon of a day. -/
def noon : Timestamp :=
  .noon

/-- A post of the first user, registered in the store of the process. -/
def single : Premises Engagement.Tally :=
  ⟨⟨[], [⟨7, 1, "Title", "", noon⟩]⟩, (Engagement.Tally.empty.register 7).2,
    .unused, .ticking 0, []⟩

/-- The third question meets a store that is down. -/
def thirdFails (n : Nat) : Option Fault :=
  if n = 2 then some (.storeUnavailable "store down") else none

/-- Without automatic registration a post whose registration fails keeps its row. -/
theorem unchanged_or_half_done_of_registration :
    let rules : Rules := ⟨false, 2000, 8, ⟨20, 100⟩⟩
    let run := (create rules 1 ⟨"Second", ""⟩).run.run (answer .inProcess noon thirdFails) single
    run.1 = .error (.storeUnavailable "store down") ∧
      single.HalfWritten 2000 (.storeUnavailable "store down") run.2 := by
  intro rules run
  have hrun : run = (.error (.storeUnavailable "store down"), run.2) := rfl
  have hhalf := (unchanged_or_half_done .inProcess noon thirdFails rules single).1 1 ⟨"Second", ""⟩
    (.storeUnavailable "store down") run.2 hrun
  rcases hhalf with hkept | ⟨-, hwritten⟩
  · exact absurd (congrArg (·.posts.length) hkept.tables) (by decide)
  · exact ⟨rfl, hwritten⟩

/-- A deletion whose removal fails is reported as one that may be tried again. It has deleted the
row and kept the entry, and when it is tried again and nothing fails, the post is not found. -/
theorem deletion_left_half_done :
    let rules : Rules := ⟨true, 2000, 8, ⟨20, 100⟩⟩
    let run := (delete rules 7 1).run.run (answer .inProcess noon thirdFails) single
    let again := (delete rules 7 1).run.run (answer .inProcess noon fun _ => none) run.2
    run.1 = .error (.storeUnavailable "store down") ∧
      (Fault.storeUnavailable "store down").isRetryable = true ∧ ¬ single.Unchanged run.2 ∧
      run.2.engagement.scoreOf 7 = some 0 ∧ again.1 = .error (.postNotFound 7) := by
  refine ⟨rfl, rfl, fun hkept => ?_, rfl, rfl⟩
  exact absurd (congrArg (·.posts.length) hkept.tables) (by decide)

end Forum.Posts
