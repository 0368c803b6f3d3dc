import Mathlib
import Forum.Proofs.Redis.Keyspace
import Forum.Redis.Keyspace

/-!
# All or nothing

The script that records a vote writes twice, and the server takes nothing back when a command of a
script is refused. It is all or nothing all the same, because the checks stand before the first
write and cover whatever the second one could be refused for. This holds whatever the keys hold: no
value, or values of any type with any content. Scores are whole numbers, as the numbers of the
server are up to 2^53.
-/

namespace Forum.Redis

variable {k : Keyspace}

namespace Steps

end Steps

namespace Keyspace

variable {key : String}

/-- A key counts as a hash if it is absent or holds one. -/
theorem exists_fields?_iff : (∃ fields, k.fields? key = some fields) ↔
    k.values[key]? = none ∨ ∃ fields, k.values[key]? = some (.hash fields) := by
  rw [fields?]
  rcases k.values[key]? with _ | _ | _ | _ | _ | _ | _ <;> simp

/-- It counts as a sorted set if it is absent or holds one. -/
theorem exists_scores?_iff : (∃ scores, k.scores? key = some scores) ↔
    k.values[key]? = none ∨ ∃ scores, k.values[key]? = some (.sortedSet scores) := by
  rw [scores?]
  rcases k.values[key]? with _ | _ | _ | _ | _ | _ | _ <;> simp

end Keyspace

namespace Store

variable (s : Store) (c : Vote.Change) (k : Keyspace)

/-- What a change has to find to be recorded. -/
structure Admits : Prop where
  /-- The key of the votes is absent or holds a hash. -/
  votes : k.values[s.votesKey c.post]? = none ∨
    ∃ fields, k.values[s.votesKey c.post]? = some (.hash fields)
  /-- The key of the scores is absent or holds a sorted set. -/
  scores : k.values[s.scoresKey]? = none ∨
    ∃ scores, k.values[s.scoresKey]? = some (.sortedSet scores)
  /-- The field of the voter, empty if it is absent, is the vote that the change was decided
  against. -/
  previous : (((k.fields? (s.votesKey c.post)).bind fun fields =>
    fields[toString c.user]?).getD "") = storedVote c.previous

/-- What is left by a change that was recorded. -/
structure Recorded (r : Reply) (left : Keyspace) : Prop where
  /-- The field of the voter holds the new vote, and all other fields are as they were. -/
  vote : ∃ fields, k.fields? (s.votesKey c.post) = some fields ∧
    left.values[s.votesKey c.post]? = some (.hash (fields.insert (toString c.user) c.next.stored))
  /-- The score of the post is the old one, zero if there was none, and the change on top of it; all
  other scores are as they were, and the new score is the reply. -/
  score : ∃ scores, k.scores? s.scoresKey = some scores ∧
    left.values[s.scoresKey]? = some (.sortedSet (scores.insert (member c.post)
      (scores[member c.post]?.getD 0 + c.delta.toInt))) ∧
    r = .array [.integer 1, .integer (scores[member c.post]?.getD 0 + c.delta.toInt)]
  /-- All other keys are as they were. -/
  others : ∀ key, key ≠ s.votesKey c.post → key ≠ s.scoresKey → left.values[key]? = k.values[key]?

/-- The script of a commit, with its keys and arguments. -/
def commitCommand : Command :=
  .eval .commitVote [s.votesKey c.post, s.scoresKey]
    [toString c.user, storedVote c.previous, c.next.stored, toString c.delta, member c.post]

variable {s c k}

/-- A change that is admitted is recorded. -/
theorem Admits.recorded (h : s.Admits c k) : s.Recorded c k (k.execute (s.commitCommand c)).1
    (k.execute (s.commitCommand c)).2 := by
  obtain ⟨fields, hfields⟩ := Keyspace.exists_fields?_iff.2 h.votes
  obtain ⟨scores, hscores⟩ := Keyspace.exists_scores?_iff.2 h.scores
  have hprevious : fields[toString c.user]?.getD "" = storedVote c.previous := by
    simpa only [hfields, Option.bind_some] using h.previous
  have hkeys := s.votesKey_ne_scoresKey c.post s
  have hsent : Numeral.integer? (toString c.delta).toList = some c.delta.toInt :=
    Numeral.integer?_toString c.delta.toInt
  have hrun := Keyspace.commitVote_of_expected hfields hscores hkeys.symm hprevious hsent
    c.next.stored (member c.post)
  change s.Recorded c k (k.commitVote _ _ _ _ _ _ _).1 (k.commitVote _ _ _ _ _ _ _).2
  rw [hrun]
  refine ⟨⟨fields, hfields, ?_⟩, ⟨scores, hscores, ?_, rfl⟩, fun key hvotes hother => ?_⟩
  · rw [Keyspace.values_put, if_neg hkeys, Keyspace.values_put, if_pos rfl]
  · rw [Keyspace.values_put, if_pos rfl]
  · rw [Keyspace.values_put, if_neg hother, Keyspace.values_put, if_neg hvotes]

end Store

end Forum.Redis
