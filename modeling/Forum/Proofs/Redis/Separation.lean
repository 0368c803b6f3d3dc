import Mathlib
import Forum.Proofs.Redis.Keyspace
import Forum.Proofs.Redis.Locality

/-!
# Stores on one server

Any number of stores can share a server if their prefixes are different. No prefix is ruled out: a
prefix may be empty, have colons in it, or be a key of another store. The keys of a store are its
own, every command that it sends names only these, and commands are local to the keys that they
name. So each store is answered as if it were alone.
-/

namespace Forum.Redis

open Engagement (Call)

namespace Store

/-- The keys of a store: one for the scores, and one for the votes on each post. -/
def keys (s : Store) : Set String :=
  insert s.scoresKey (Set.range s.votesKey)

variable {s s' : Store} {k k' : Keyspace}

/-- No key belongs to two stores. -/
theorem disjoint_keys (h : s ≠ s') : Disjoint s.keys s'.keys := by
  rw [Set.disjoint_left]
  rintro key (rfl | ⟨a, rfl⟩) (hscores | ⟨b, hvotes⟩)
  · exact h (scoresKey_eq_iff.1 hscores)
  · exact votesKey_ne_scoresKey s' b s hvotes
  · exact votesKey_ne_scoresKey s a s' hscores
  · exact h (votesKey_eq_iff.1 hvotes.symm).1

/-- The commands of a store name its keys and no others. -/
theorem keys_of_command? {c : Call} {command : Command} (h : s.command? c = some command) :
    ∀ key ∈ command.keys, key ∈ s.keys := by
  have hscores : ∀ key ∈ [s.scoresKey], key ∈ s.keys := by
    rintro key hk
    exact .inl (List.mem_singleton.1 hk)
  have hboth (post : Int64) : ∀ key ∈ [s.votesKey post, s.scoresKey], key ∈ s.keys := by
    rintro key hk
    rcases List.mem_cons.1 hk with rfl | hk
    · exact .inr ⟨post, rfl⟩
    · exact hscores key hk
  cases c with
  | voteOf post user =>
    cases h
    rintro key hk
    exact .inr ⟨post, (List.mem_singleton.1 hk).symm⟩
  | commitVote c => cases h; exact hboth c.post
  | remove post => cases h; exact hboth post
  | topByScore offset limit =>
    rw [command?] at h
    split at h <;> cases h
    exact hscores
  | _ => cases h; exact hscores

/-- The answer to a call of a store, and what is left under its keys, depends on what its keys hold
and on nothing else. -/
theorem answer_congr (h : Keyspace.Agree s.keys k k') (c : Call) :
    (s.answer k' c).1 = (s.answer k c).1 ∧
      Keyspace.Agree s.keys (s.answer k c).2 (s.answer k' c).2 := by
  unfold answer
  cases hc : s.command? c with
  | none => exact ⟨rfl, h⟩
  | some command =>
    obtain ⟨hreply, hleft⟩ :=
      ((Keyspace.local_execute command).mono (keys_of_command? hc)).congr h
    exact ⟨congrArg (interpret · c) hreply, hleft⟩

/-- A call of a store changes no key of another one. -/
theorem answer_frame (h : s ≠ s') (k : Keyspace) (c : Call) :
    Keyspace.Agree s.keys k (s'.answer k c).2 := by
  unfold answer
  cases hc : s'.command? c with
  | none => exact .refl _ k
  | some command =>
    have hlocal := (Keyspace.local_execute command).mono (keys_of_command? hc)
    exact fun key hk => hlocal.frame k key (Set.disjoint_left.1 (disjoint_keys h) hk)

end Store

/-! ## Calls of several stores -/

/-- A call of a store with its answer. -/
structure Exchange where
  /-- The store. -/
  store : Store
  /-- What it was asked. -/
  call : Call
  /-- What it answered. -/
  answer : Except Fault call.Reply

/-- The calls of stores that share a server, one after the other, with their answers. -/
def exchanges : List (Store × Call) → Keyspace → List Exchange
  | [], _ => []
  | (s, c) :: rest, k => ⟨s, c, (s.answer k c).1⟩ :: exchanges rest (s.answer k c).2

namespace Store

variable {s : Store} {k k' : Keyspace}

/-- Among all calls those of one store are answered as they are alone, on a server that agrees on
the keys of this store. -/
theorem filter_exchanges (h : Keyspace.Agree s.keys k k') (calls : List (Store × Call)) :
    (exchanges calls k).filter (·.store = s) = exchanges (calls.filter (·.1 = s)) k' := by
  induction calls generalizing k k' with
  | nil => rfl
  | cons call rest ih =>
    obtain ⟨s', c⟩ := call
    rw [exchanges]
    by_cases hs : s' = s
    · subst hs
      obtain ⟨hanswer, hleft⟩ := answer_congr h c
      rw [List.filter_cons_of_pos (by simp), List.filter_cons_of_pos (by simp), exchanges,
        ih hleft, hanswer]
    · have hleft : Keyspace.Agree s.keys (s'.answer k c).2 k' :=
        (answer_frame (Ne.symm hs) k c).symm.trans h
      rw [List.filter_cons_of_neg (by simpa using hs), List.filter_cons_of_neg (by simpa using hs),
        ih hleft]

/-- **Keys never collide.** Whatever the prefixes are, keys of votes are the same only for one
prefix and one post, keys of scores only for one prefix, and no key of votes is a key of scores. So
stores with different prefixes have no key in common; and as every command of a store names only
keys of this store and touches no others, any calls of any stores on one server are answered, to
each store, as if they were the only ones. -/
theorem keys_never_collide (p q : String) (a b : Int64) :
    ((mk p).votesKey a = (mk q).votesKey b ↔ p = q ∧ a = b) ∧
    ((mk p).scoresKey = (mk q).scoresKey ↔ p = q) ∧
    (mk p).votesKey a ≠ (mk q).scoresKey ∧
    (p ≠ q → Disjoint (mk p).keys (mk q).keys) ∧
    (∀ c command, (mk p).command? c = some command →
      (∀ key ∈ command.keys, key ∈ (mk p).keys) ∧
      Keyspace.Local {key | key ∈ command.keys} (·.execute command)) ∧
    ∀ (calls : List (Store × Call)) (k : Keyspace),
      (exchanges calls k).filter (·.store = mk p) = exchanges (calls.filter (·.1 = mk p)) k := by
  have hkeyspace : mk p = mk q ↔ p = q := ⟨congrArg keyspace, congrArg mk⟩
  refine ⟨?_, ?_, votesKey_ne_scoresKey _ a _, fun hne => ?_, fun c command hc => ?_,
    fun calls k => filter_exchanges (.refl _ k) calls⟩
  · rw [votesKey_eq_iff, hkeyspace]
  · rw [scoresKey_eq_iff, hkeyspace]
  · exact disjoint_keys fun hs => hne (hkeyspace.1 hs)
  · exact ⟨keys_of_command? hc, Keyspace.local_execute command⟩

/-- The prefix of one store is a key of the other one. Each enters the same post, and the first
store enters it again. -/
theorem keys_never_collide_of_nested :
    let outer : Store := ⟨"forum"⟩
    let inner : Store := ⟨"forum:votes:7"⟩
    outer.votesKey 7 = inner.keyspace ∧ outer.keyspace ≠ inner.keyspace ∧
    Disjoint outer.keys inner.keys ∧
    outer.command? (.register 7) = some (.sortedAdd outer.scoresKey (member 7)) ∧
    outer.scoresKey ∈ [outer.scoresKey] ∧ outer.scoresKey ∈ outer.keys ∧
    (exchanges [(outer, .register 7), (inner, .register 7), (outer, .register 7)] .empty).filter
        (·.store = outer) =
      [⟨outer, .register 7, .ok true⟩, ⟨outer, .register 7, .ok false⟩] := by
  intro outer inner
  obtain ⟨-, -, -, hdisjoint, hcommand, hcalls⟩ :=
    keys_never_collide outer.keyspace inner.keyspace 7 7
  have hprefixes : outer.keyspace ≠ inner.keyspace := by decide
  have hkey : outer.scoresKey ∈ [outer.scoresKey] := List.mem_singleton_self _
  refine ⟨by decide, hprefixes, hdisjoint hprefixes, rfl, hkey,
    (hcommand (.register 7) _ rfl).1 _ hkey, ?_⟩
  have hfirst : (outer.answer .empty (.register 7)).1 = .ok true := by decide +kernel
  have hagain :
      (outer.answer (outer.answer .empty (.register 7)).2 (.register 7)).1 = .ok false := by
    decide +kernel
  have hown : [(outer, Call.register 7), (inner, .register 7), (outer, .register 7)].filter
      (·.1 = outer) = [(outer, .register 7), (outer, .register 7)] := by decide
  exact (hcalls _ _).trans (by rw [hown, exchanges, exchanges, exchanges, hfirst, hagain])

end Store

end Forum.Redis
