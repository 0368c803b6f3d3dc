import Mathlib
import Forum.Proofs.Redis.Keyspace

/-!
# Locality

A command reads and writes nothing but the keys that it names: what other keys hold has no influence
on the reply or on what is written, and it stays as it is. This is so for every command, scripts
with any keys and arguments included, whatever the keys hold.
-/

namespace Forum.Redis

/-- The keys that a command names. -/
def Command.keys : Command → List String
  | .eval _ keys _ => keys
  | .hashGet key _ | .sortedAdd key _ | .sortedIncrement key _ _ | .sortedScore key _
  | .sortedRange key _ _ | .sortedCount key => [key]

namespace Keyspace

variable {keys : Set String} {k k' : Keyspace} {key : String}

/-- Whether two keyspaces hold the same under some keys. -/
def Agree (keys : Set String) (k k' : Keyspace) : Prop :=
  ∀ key ∈ keys, k'.values[key]? = k.values[key]?

namespace Agree

theorem refl (keys : Set String) (k : Keyspace) : Agree keys k k := fun _ _ => rfl

theorem symm (h : Agree keys k k') : Agree keys k' k := fun key hk => (h key hk).symm

theorem trans {k'' : Keyspace} (h : Agree keys k k') (h' : Agree keys k' k'') : Agree keys k k'' :=
  fun key hk => (h' key hk).trans (h key hk)

theorem put (h : Agree keys k k') (key : String) (v : Value) :
    Agree keys (k.put key v) (k'.put key v) := by
  intro other ho
  rw [values_put, values_put, h other ho]

theorem erase (h : Agree keys k k') (key : String) : Agree keys (k.erase key) (k'.erase key) := by
  intro other ho
  rw [values_erase, values_erase, h other ho]

end Agree

/-- An operation of the server that reads and writes nothing but some keys. -/
structure Local (keys : Set String) (operation : Keyspace → Reply × Keyspace) : Prop where
  /-- Other keys have no influence. -/
  congr : ∀ {k k'}, Agree keys k k' → (operation k').1 = (operation k).1 ∧
    Agree keys (operation k).2 (operation k').2
  /-- They stay as they are. -/
  frame : ∀ k, Agree keysᶜ k (operation k).2

namespace Local

variable {operation : Keyspace → Reply × Keyspace}

/-- More keys may be allowed. -/
theorem mono {more : Set String} (h : Local keys operation) (hsub : keys ⊆ more) :
    Local more operation where
  congr {k k'} hagree := by
    obtain ⟨hreply, hleft⟩ := h.congr fun key hk => hagree key (hsub hk)
    refine ⟨hreply, fun key hk => ?_⟩
    by_cases hin : key ∈ keys
    · exact hleft key hin
    · rw [h.frame k' key hin, h.frame k key hin, hagree key hk]
  frame k key hk := h.frame k key fun hin => hk (hsub hin)

/-- Looking at the keys changes nothing. -/
theorem inspect {f : Keyspace → Reply} (h : ∀ {k k'}, Agree keys k k' → f k' = f k) :
    Local keys fun k => (f k, k) where
  congr hagree := ⟨h hagree, hagree⟩
  frame k := .refl _ k

theorem reply (r : Reply) : Local keys fun k => (r, k) :=
  inspect fun _ => rfl

theorem put (r : Reply) (hk : key ∈ keys) (v : Value) : Local keys fun k => (r, k.put key v) where
  congr h := ⟨rfl, h.put key v⟩
  frame k other ho := by
    have hne : other ≠ key := fun he => ho (he ▸ hk)
    rw [values_put, if_neg hne]

theorem erase (r : Reply) (hk : key ∈ keys) : Local keys fun k => (r, k.erase key) where
  congr h := ⟨rfl, h.erase key⟩
  frame k other ho := by
    have hne : other ≠ key := fun he => ho (he ▸ hk)
    rw [values_erase, if_neg hne]

/-- The reply may be put differently. -/
theorem map (h : Local keys operation) (f : Reply → Reply) :
    Local keys fun k => (f (operation k).1, (operation k).2) where
  congr hagree := ⟨congrArg f (h.congr hagree).1, (h.congr hagree).2⟩
  frame := h.frame

/-- One operation may follow on another one. -/
theorem comp {first : Keyspace → Reply × Keyspace} (h : Local keys operation)
    (hfirst : Local keys first) : Local keys fun k => operation (first k).2 where
  congr hagree := h.congr (hfirst.congr hagree).2
  frame k := (hfirst.frame k).trans (h.frame (first k).2)

theorem of_eq {other : Keyspace → Reply × Keyspace} (h : Local keys operation)
    (he : ∀ k, other k = operation k) : Local keys other :=
  funext he ▸ h

/-- What an operation does may depend on what it reads. -/
theorem of_cases {α : Type} (read : Keyspace → α)
    (hread : ∀ {k k'}, Agree keys k k' → read k' = read k)
    (h : ∀ a, ∃ same, Local keys same ∧ ∀ k, read k = a → operation k = same k) :
    Local keys operation where
  congr {k k'} hagree := by
    obtain ⟨same, hlocal, hsame⟩ := h (read k)
    rw [hsame k rfl, hsame k' (hread hagree)]
    exact hlocal.congr hagree
  frame k := by
    obtain ⟨same, hlocal, hsame⟩ := h (read k)
    rw [hsame k rfl]
    exact hlocal.frame k

theorem of_scores (hk : key ∈ keys)
    (h : ∀ scores, ∃ same, Local keys same ∧ ∀ k, k.scores? key = scores → operation k = same k) :
    Local keys operation :=
  of_cases (·.scores? key) (fun hagree => scores?_congr (hagree key hk)) h

end Local

/-! ## The operations -/

theorem local_sortedAdd (hk : key ∈ keys) (member : String) :
    Local keys (·.sortedAdd key member) := by
  refine .of_scores hk fun held => ?_
  rcases held with _ | scores
  · exact ⟨_, .reply wrongType, fun k hs => by rw [sortedAdd, hs]⟩
  by_cases hm : member ∈ scores
  · refine ⟨_, .reply (.integer 0), fun k hs => ?_⟩
    rw [sortedAdd, hs]
    exact if_pos hm
  · refine ⟨_, .put (.integer 1) hk (.sortedSet (scores.insert member 0)), fun k hs => ?_⟩
    rw [sortedAdd, hs]
    exact if_neg hm

theorem local_sortedIncrement (hk : key ∈ keys) (delta member : String) :
    Local keys (·.sortedIncrement key delta member) := by
  refine .of_scores hk fun held => ?_
  cases hn : Numeral.integer? delta.toList with
  | none => exact ⟨_, .reply _, fun k _ => by rw [sortedIncrement, hn]⟩
  | some n =>
    rcases held with _ | scores
    · exact ⟨_, .reply wrongType, fun k hs => by rw [sortedIncrement, hn, hs]⟩
    · exact ⟨_, .put _ hk _, fun k hs => sortedIncrement_of_scores? hs hn member⟩

theorem local_sortedRemove (hk : key ∈ keys) (member : String) :
    Local keys (·.sortedRemove key member) := by
  refine .of_scores hk fun held => ?_
  rcases held with _ | scores
  · exact ⟨_, .reply wrongType, fun k hs => by rw [sortedRemove, hs]⟩
  by_cases hm : member ∈ scores
  · by_cases hempty : (scores.erase member).isEmpty
    · refine ⟨_, .erase (.integer 1) hk, fun k hs => ?_⟩
      simp only [sortedRemove, hs, if_pos hm, if_pos hempty]
    · refine ⟨_, .put (.integer 1) hk (.sortedSet (scores.erase member)), fun k hs => ?_⟩
      simp only [sortedRemove, hs, if_pos hm, if_neg hempty]
  · refine ⟨_, .reply (.integer 0), fun k hs => ?_⟩
    simp only [sortedRemove, hs, if_neg hm]

/-- What the script of a commit replies once it has written. -/
def committed : Reply → Reply
  | .bulk score => .array [.integer 1, .integer ((Numeral.integer? score.toList).getD 0)]
  | r => r

theorem local_commitVote {votes scores : String} (hv : votes ∈ keys) (hk : scores ∈ keys)
    (user expected next delta post : String) :
    Local keys (·.commitVote votes scores user expected next delta post) := by
  refine .of_cases (fun k => (k.fields? votes, k.scores? scores)) (fun hagree =>
    Prod.ext (fields?_congr (hagree votes hv)) (scores?_congr (hagree scores hk)))
    fun ⟨recorded, held⟩ => ?_
  rcases recorded with _ | fields
  · refine ⟨_, .reply wrongType, fun k hread => ?_⟩
    rw [commitVote, (Prod.mk.inj hread).1]
  by_cases hexpected : fields[user]?.getD "" ≠ expected
  · refine ⟨_, .reply (.array [.integer 0, .integer 0]), fun k hread => ?_⟩
    simp only [commitVote, (Prod.mk.inj hread).1, if_pos hexpected]
  rcases held with _ | held
  · refine ⟨_, .reply (.error "WRONGTYPE score index is not a sorted set"), fun k hread => ?_⟩
    simp only [commitVote, (Prod.mk.inj hread).1, (Prod.mk.inj hread).2, if_neg hexpected,
      Option.isNone_none, if_true]
  · -- The vote is written first, and nothing is replied to that.
    refine ⟨_, ((local_sortedIncrement hk delta post).comp
      (.put .nil hv (.hash (fields.insert user next)))).map committed, fun k hread => ?_⟩
    simp only [commitVote, (Prod.mk.inj hread).1, (Prod.mk.inj hread).2, if_neg hexpected,
      Option.isNone_some]
    rcases (k.put votes (.hash (fields.insert user next))).sortedIncrement scores delta post with
      ⟨_ | _, _⟩ <;> rfl

/-- What the script of a removal replies once it has written. -/
def removed : Reply → Reply
  | .error text => .error text
  | _ => .integer 1

theorem removePost_eq (k : Keyspace) (votes scores post : String) :
    k.removePost votes scores post = (removed ((k.erase votes).sortedRemove scores post).1,
      ((k.erase votes).sortedRemove scores post).2) := by
  unfold removePost
  rcases (k.erase votes).sortedRemove scores post with ⟨_ | _, _⟩ <;> rfl

theorem local_removePost {votes scores : String} (hv : votes ∈ keys) (hk : scores ∈ keys)
    (post : String) : Local keys (·.removePost votes scores post) :=
  (((local_sortedRemove hk post).comp (.erase .nil hv)).map removed).of_eq fun k =>
    k.removePost_eq votes scores post

theorem local_runScript (script : Script) (keys arguments : List String) :
    Local {key | key ∈ keys} (·.runScript script keys arguments) := by
  cases script with
  | commitVote =>
    match keys, arguments with
    | [votes, scores], [user, expected, next, delta, post] =>
      have hv : votes ∈ [votes, scores] := List.mem_cons_self
      have hk : scores ∈ [votes, scores] := List.mem_cons_of_mem _ List.mem_cons_self
      exact local_commitVote hv hk user expected next delta post
    | [], _ | [_], _ | _ :: _ :: _ :: _, _ | [_, _], [] | [_, _], [_] | [_, _], [_, _]
    | [_, _], [_, _, _] | [_, _], [_, _, _, _] | [_, _], _ :: _ :: _ :: _ :: _ :: _ :: _ =>
      exact .reply _
  | removePost =>
    match keys, arguments with
    | [votes, scores], [post] =>
      have hv : votes ∈ [votes, scores] := List.mem_cons_self
      have hk : scores ∈ [votes, scores] := List.mem_cons_of_mem _ List.mem_cons_self
      exact local_removePost hv hk post
    | [], _ | [_], _ | _ :: _ :: _ :: _, _ | [_, _], [] | [_, _], _ :: _ :: _ => exact .reply _

/-- Every command is local to the keys that it names. -/
theorem local_execute (command : Command) :
    Local {key | key ∈ command.keys} (·.execute command) := by
  have hself {key : String} : key ∈ {other | other ∈ [key]} := List.mem_singleton_self key
  cases command with
  | hashGet key field =>
    refine Local.inspect fun {k k'} hagree => ?_
    rw [hashGet, fields?_congr (hagree key hself), hashGet]
  | eval script keys arguments => exact local_runScript script keys arguments
  | sortedAdd key member => exact local_sortedAdd hself member
  | sortedIncrement key delta member => exact local_sortedIncrement hself delta member
  | sortedScore key member =>
    refine Local.inspect fun {k k'} hagree => ?_
    rw [sortedScore, scores?_congr (hagree key hself), sortedScore]
  | sortedRange key start stop =>
    refine Local.inspect fun {k k'} hagree => ?_
    rw [sortedRange, scores?_congr (hagree key hself), sortedRange]
  | sortedCount key =>
    refine Local.inspect fun {k k'} hagree => ?_
    rw [sortedCount, scores?_congr (hagree key hself), sortedCount]

end Keyspace

end Forum.Redis
