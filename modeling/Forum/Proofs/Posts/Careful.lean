import Mathlib
import Forum.Proofs.Http.Purpose
import Forum.Proofs.Service.Programs
import Forum.Proofs.World.Effects

/-!
# Careful workflows

No request registers a post without having seen its row, no request deletes a row without removing
the post from the ranking right after, and a request that has removed a post is done. These rules
are about the order of the questions of one workflow, whatever it is answered, so they hold also
when others come in between.
-/

namespace Forum

/-- Whether a question neither registers nor removes a post, and deletes no row. -/
def Effect.spares (e : Effect) : Prop :=
  ∀ post, ¬ e.enters post ∧ ¬ e.removes post ∧ ∀ reply, ¬ e.deletes post reply

/-- What only reads spares the posts. -/
theorem Effect.spares_of_reads {e : Effect} (h : e.reads) : e.spares := by
  intro post
  cases e with
  | engagement deadline call =>
    cases call with
    | commitVote | register | adjustScore | remove => exact h.elim
    | voteOf | scoreOf | topByScore | cardinality => exact ⟨id, id, fun _ => id⟩
  | rows statement =>
    cases statement with
    | addUser | addPost | deletePost => exact h.elim
    | findUser | findPost | findPosts | recentPosts | countPosts => exact ⟨id, id, fun _ => id⟩
  | freshId => exact h.elim

namespace Workflow

variable {α β : Type} {seen : Int64 → Prop}

/-- Whether a workflow is about to remove a post from the ranking. -/
def Removes (post : Int64) : Workflow α → Prop
  | done _ => False
  | ask e _ => e.removes post

/-- Whether a workflow is done. -/
def IsDone (w : Workflow α) : Prop :=
  ∃ a, w = done a

instance (w : Workflow α) : Decidable w.IsDone :=
  match w with
  | done a => isTrue ⟨a, rfl⟩
  | ask _ _ => isFalse fun ⟨_, h⟩ => nomatch h

/-- Workflows that keep to the rules, given the posts whose rows they have seen. -/
inductive Careful : (Int64 → Prop) → Workflow α → Prop
  /-- There is nothing left to do. -/
  | done {seen : Int64 → Prop} (a : α) : Careful seen (.done a)
  /-- There is a question to ask. -/
  | ask {seen : Int64 → Prop} {e : Effect} {next : Except Fault e.Reply → Workflow α}
    (enters : ∀ post, e.enters post → seen post)
    (deletes : ∀ post reply, e.deletes post reply → (next reply).Removes post)
    (removes : ∀ post reply, e.removes post → (next reply).IsDone)
    (goes : ∀ reply, Careful (fun post => seen post ∨ e.shows post reply) (next reply)) :
    Careful seen (.ask e next)

/-- More rows were seen. -/
theorem Careful.mono {w : Workflow α} (h : w.Careful seen) {more : Int64 → Prop}
    (hmore : ∀ post, seen post → more post) : w.Careful more := by
  induction h generalizing more with
  | done a => exact .done a
  | ask enters deletes removes _ ih =>
    exact .ask (fun post he => hmore post (enters post he)) deletes removes
      fun reply => ih reply fun post hp => hp.imp_left (hmore post)

/-- A question that spares the posts keeps to the rules, if what follows does. -/
theorem Careful.ask_sparing {e : Effect} {next : Except Fault e.Reply → Workflow α}
    (hspares : e.spares)
    (goes : ∀ reply, (next reply).Careful fun post => seen post ∨ e.shows post reply) :
    (Workflow.ask e next).Careful seen :=
  .ask (fun post he => absurd he (hspares post).1)
    (fun post reply hd => absurd hd ((hspares post).2.2 reply))
    (fun post _ hr => absurd hr (hspares post).2.1) goes

/-- A workflow keeps to the rules if it spares the posts until another one goes on that does. -/
theorem Careful.after_sparing {c : Workflow α} {f : α → Workflow β}
    (hc : c.Asks Effect.spares) (hf : ∀ a, (f a).Careful seen) : (c.andThen f).Careful seen := by
  induction c generalizing seen with
  | done a => exact hf a
  | ask e next ih =>
    obtain ⟨hspares, hnext⟩ := hc
    refine .ask_sparing hspares fun reply => ih reply (hnext reply) fun a => ?_
    exact (hf a).mono fun post hp => .inl hp

/-- A workflow that spares the posts keeps to the rules. -/
theorem Careful.of_sparing {w : Workflow α} (h : w.Asks Effect.spares) : w.Careful seen := by
  rw [← andThen_done w]
  exact .after_sparing h .done

/-- What is made of the value does not matter. -/
theorem Careful.shown {v : Workflow β} (hv : v.Careful seen) (view : β → α) :
    (v.andThen fun b => .done (view b)).Careful seen := by
  induction hv with
  | done b => exact .done (view b)
  | @ask seen e next enters deletes removes _ ih =>
    refine .ask enters (fun post reply hd => ?_) (fun post reply hr => ?_) ih
    · have hremoves := deletes post reply hd
      revert hremoves
      cases next reply <;> exact id
    · obtain ⟨b, hb⟩ := removes post reply hr
      exact ⟨view b, by rw [hb]; rfl⟩

end Workflow

open Workflow

variable (rules : Rules) {seen : Int64 → Prop}

/-- A post that is looked up first has been seen when its row is found. -/
theorem Posts.careful_lookUp {α : Type} {id : Int64} {next : Post → Workflow (Except Fault α)}
    (h : ∀ row, (next row).Careful fun post => seen post ∨ id = post) :
    (Workflow.ask (.rows (.findPost id)) (afterLookUp id next)).Careful seen := by
  refine .ask_sparing (Effect.spares_of_reads trivial) fun reply => ?_
  rcases reply with fault | _ | row
  · exact .done _
  · exact .done _
  · exact h row

/-- Writing a post registers the post of the row that it has entered. -/
theorem Posts.careful_create (author : Int64) (draft : Draft) :
    (create rules author draft).run.Careful seen := by
  cases hd : LengthRule.check draft.checks with
  | error fault =>
    rw [create_run_of_broken rules hd]
    exact .done _
  | ok =>
    rw [create_run_of_checked rules hd]
    refine .ask_sparing (fun _ => ⟨id, id, fun _ => id⟩) fun reply => ?_
    rcases reply with fault | fresh
    · exact .done _
    · refine .ask_sparing (fun _ => ⟨id, id, fun _ => id⟩) fun reply => ?_
      rcases reply with fault | row
      · exact .done _
      · refine .ask (fun post he => .inr he) (fun _ _ hd => hd.elim) (fun _ _ hr => hr.elim)
          fun reply => ?_
        cases reply <;> exact .done _

/-- Deleting a post removes it right after its row. -/
theorem Posts.careful_delete (id user : Int64) : (delete rules id user).run.Careful seen := by
  rw [delete_run]
  refine careful_lookUp fun row => ?_
  split
  · exact .done _
  · refine .ask (fun _ he => he.elim) (fun post reply hd => ?_) (fun _ _ hr => hr.elim)
      fun reply => ?_
    · rcases reply with fault | ⟨⟩
      · exact hd.elim
      · exact hd
    · rcases reply with fault | ⟨⟩
      · exact .done _
      · exact .ask (fun _ he => he.elim) (fun _ _ hd => hd.elim) (fun _ reply _ => ⟨reply, rfl⟩)
          fun reply => .done reply

/-- An attempt to vote registers no other post than its own. -/
theorem Voting.careful_attempt {post user : Int64} {requested : Direction}
    {otherwise : Service Receipt} (hs : seen post)
    (hother : ∀ {more : Int64 → Prop}, more post → otherwise.run.Careful more) :
    (attempt rules post user requested otherwise).run.Careful seen := by
  rw [attempt_run]
  refine .ask_sparing (Effect.spares_of_reads trivial) fun reply => ?_
  rcases reply with fault | previous
  · exact .done _
  · rw [afterRead]
    cases hd : Vote.decide post user previous requested with
    | error fault => exact .done _
    | ok change =>
      have hpost : change.post = post := by rw [Vote.decide_eq_ok hd]
      refine .ask (fun other he => ?_) (fun _ _ hd => hd.elim) (fun _ _ hr => hr.elim)
        fun reply => ?_
      · have hsame : change.post = other := he
        exact .inl (hsame ▸ hpost ▸ hs)
      · rcases reply with fault | ⟨score⟩ | _
        · exact .done _
        · exact .done _
        · exact hother (.inl (.inl hs))

/-- Neither do more of them. -/
theorem Voting.careful_attempts {post user : Int64} (requested : Direction) (hs : seen post)
    (retries : Nat) : (attempts rules post user requested retries).run.Careful seen := by
  induction retries generalizing seen with
  | zero => exact careful_attempt rules hs fun _ => .done _
  | succ retries ih => exact careful_attempt rules hs fun hmore => ih hmore

/-- Nor does the whole vote. -/
theorem Voting.careful_vote {post user : Int64} (requested : Direction) (hs : seen post) :
    (vote rules post user requested).run.Careful seen := by
  cases hauto : rules.autoRegister with
  | true =>
    rw [vote_run_of_auto rules post user requested hauto]
    exact careful_attempts rules requested hs rules.maxRetries
  | false =>
    rw [vote_run_of_registered rules post user requested hauto]
    refine .ask_sparing (Effect.spares_of_reads trivial) fun reply => ?_
    rcases reply with fault | _ | score
    · exact .done _
    · exact .done _
    · exact careful_attempts rules requested (.inl hs) rules.maxRetries

/-- Entering a user spares the posts. -/
theorem Accounts.asks_create (username : String) :
    (create username).run.Asks Effect.spares := by
  have hfind : ∀ key, Effect.spares (.rows (.findUser key)) := fun key =>
    Effect.spares_of_reads trivial
  have hadd : ∀ id name lower, Effect.spares (.rows (.addUser id name lower)) :=
    fun _ _ _ _ => ⟨id, id, fun _ => id⟩
  have hfresh : Effect.spares .freshId := fun _ => ⟨id, id, fun _ => id⟩
  rw [create]
  refine asks_bind ?_ fun _ => asks_bind ⟨hfind _, fun _ => trivial⟩ fun found => ?_
  · cases checkName username <;> trivial
  · split
    · exact asks_throw _
    · exact asks_bind ⟨hfresh, fun _ => trivial⟩ fun id => ⟨hadd _ _ _, fun _ => trivial⟩

namespace Http

/-- Every request keeps to the rules. -/
theorem careful_respond (r : Request) : (respond rules r).Careful seen := by
  have hreads : ∀ {α : Type} {w : Workflow α}, w.Asks Effect.reads → w.Asks Effect.spares :=
    fun h => h.mono fun _ he => Effect.spares_of_reads he
  rcases respond_cases rules r with ⟨response, hdone, -⟩ | ⟨f, hf, hpurpose⟩
  · rw [hdone]
    exact .done response
  · rw [hf]
    refine .after_sparing (hreads (asks_caller fun _ _ => trivial)) fun user => ?_
    cases hpurpose user with
    | shows method asks =>
      exact .of_sparing ((hreads (asks.mono fun _ => Effect.reads_of_browses)).andThen
        fun _ => trivial)
    | refuses same =>
      rw [finish, same]
      exact .done _
    | does d asked same =>
      rw [finish_of_does rules same]
      refine .shown ?_ _
      cases d with
      | enterUser username => exact .of_sparing (Accounts.asks_create username)
      | writePost author draft => exact Posts.careful_create rules author draft
      | deletePost author post => exact Posts.careful_delete rules post author
      | vote voter post direction =>
        rw [Deed.service, voteOnExisting_run]
        exact Posts.careful_lookUp fun _ => Voting.careful_vote rules direction (.inr rfl)

end Http

end Forum
