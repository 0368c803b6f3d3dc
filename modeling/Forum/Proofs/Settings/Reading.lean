import Mathlib
import Forum.Proofs.Settings.Layers

/-!
# What reading looks at

Settings are read from the values of the known names in the known groups, and from a list as from
no value at all. Two trees that have the same groups as tables, and the same values there, are read
alike: as the same settings, or with the same problem.
-/

namespace Forum.Settings

variable {α : Type} {es es' : List (String × Node)}

/-- Whether two tables have the same values under some names, as far as they count. -/
def SameValues (names : List String) (es es' : List (String × Node)) : Prop :=
  ∀ name ∈ names, (Node.lookup? name es).map Node.bare = (Node.lookup? name es').map Node.bare

/-- Whether two trees have the same groups as tables, with the same values of the settings. -/
def SameGroups (root root' : List (String × Node)) : Prop :=
  ∀ g ∈ groups, Node.lookup? g.1 root = none ∧ Node.lookup? g.1 root' = none ∨
    ∃ es es', Node.lookup? g.1 root = some (.table es) ∧
      Node.lookup? g.1 root' = some (.table es') ∧ SameValues g.2 es es'

/-! ## Single values -/

/-- Whether a kind of value is not read from lists. -/
def IgnoresLists (read : Node → Option α) : Prop :=
  ∀ n, read n.bare = read n

/-- Texts are not. -/
theorem ignoresLists_text? : IgnoresLists Node.text? := by
  intro n
  cases n <;> rfl

/-- Booleans are not. -/
theorem ignoresLists_boolean? : IgnoresLists Node.boolean? := by
  intro n
  cases n <;> rfl

/-- Unsigned numbers are not. -/
theorem ignoresLists_unsigned? : IgnoresLists Node.unsigned? := by
  intro n
  cases n <;> rfl

/-- Neither are those up to a bound. -/
theorem ignoresLists_upTo? (max : Nat) : IgnoresLists (Node.upTo? max) := by
  intro n
  rw [Node.upTo?, Node.upTo?, ignoresLists_unsigned? n]

/-- Backends are not. -/
theorem ignoresLists_backend? : IgnoresLists Backend.ofNode? := by
  intro n
  cases n <;> rfl

/-- Two values of which the same counts are read alike. -/
theorem IgnoresLists.eq_of_bare {read : Node → Option α} (h : IgnoresLists read) {n n' : Node}
    (same : n.bare = n'.bare) : read n = read n' := by
  rw [← h n, same, h n']

section values

variable {names : List String} (same : SameValues names es es') {read : Node → Option α}
  (h : IgnoresLists read) (group : String) {name : String} (hname : name ∈ names) (place : Nat)

include same h hname

/-- A setting that may be left out is read alike from two tables with the same value of it. -/
theorem read?_congr : (Group.named es).read? group name place read =
    (Group.named es').read? group name place read := by
  have hvalue := same name hname
  rw [Group.read?, Group.read?, Group.find?, Group.find?]
  cases hfound : Node.lookup? name es <;> cases hfound' : Node.lookup? name es' <;>
    rw [hfound, hfound'] at hvalue
  · cases hvalue
  · cases hvalue
  · dsimp only
    rw [h.eq_of_bare (Option.some_inj.1 hvalue)]
    rfl

/-- So is one that has a usual value. -/
theorem readOr_congr (usual : α) : (Group.named es).readOr group name place read usual =
    (Group.named es').readOr group name place read usual := by
  rw [Group.readOr, Group.readOr, read?_congr same h group hname]

end values

/-! ## Groups -/

/-- Whether a group is read from the values of some names, and from none of them if it is a list. -/
def ReadsOnly (names : List String) (read : Group → Except Problem α) : Prop :=
  ∀ es es', SameValues names es es' → read (.named es) = read (.named es')

/-- The server is. -/
theorem readsOnly_server : ReadsOnly ["host", "port"] Server.read := by
  intro es es' same
  rw [Server.read, Server.read, readOr_congr same ignoresLists_text? _ (by decide),
    readOr_congr same (ignoresLists_upTo? _) _ (by decide)]

/-- The database is. -/
theorem readsOnly_database :
    ReadsOnly ["url", "max_connections", "min_connections"] Database.read := by
  intro es es' same
  rw [Database.read, Database.read, read?_congr same ignoresLists_text? _ (by decide),
    readOr_congr same (ignoresLists_upTo? _) _ (by decide),
    readOr_congr same (ignoresLists_upTo? _) _ (by decide)]
  rfl

/-- The key-value server is. -/
theorem readsOnly_redis : ReadsOnly ["url", "prefix"] Redis.read := by
  intro es es' same
  rw [Redis.read, Redis.read, readOr_congr same ignoresLists_text? _ (by decide),
    readOr_congr same ignoresLists_text? _ (by decide)]

/-- The identifiers are. -/
theorem readsOnly_identifiers : ReadsOnly ["epoch", "worker_id"] Identifiers.read := by
  intro es es' same
  rw [Identifiers.read, Identifiers.read, readOr_congr same ignoresLists_text? _ (by decide),
    readOr_congr same ignoresLists_unsigned? _ (by decide)]

/-- The backend is, a table of which counts as it stands. -/
theorem readsOnly_backend {names : List String} (h : "backend" ∈ names) :
    ReadsOnly names Backend.read := by
  intro es es' same
  have hvalue := same "backend" h
  rw [Backend.read, Backend.read, Group.find?, Group.find?]
  cases hfound : Node.lookup? "backend" es <;> cases hfound' : Node.lookup? "backend" es' <;>
    rw [hfound, hfound'] at hvalue
  · cases hvalue
  · cases hvalue
  · dsimp only
    rw [ignoresLists_backend?.eq_of_bare (Option.some_inj.1 hvalue)]

/-- The store of votes and scores is. -/
theorem readsOnly_engagement :
    ReadsOnly ["backend", "auto_register", "deadline_ms", "max_commit_retries"]
      Engagement.read := by
  intro es es' same
  rw [Engagement.read, Engagement.read, readsOnly_backend (by decide) es es' same,
    readOr_congr same ignoresLists_boolean? _ (by decide),
    readOr_congr same ignoresLists_unsigned? _ (by decide),
    readOr_congr same (ignoresLists_upTo? _) _ (by decide)]

/-- The sizes of pages are. -/
theorem readsOnly_sizes : ReadsOnly ["default_page_size", "max_page_size"] readSizes := by
  intro es es' same
  rw [readSizes, readSizes, readOr_congr same ignoresLists_unsigned? _ (by decide),
    readOr_congr same ignoresLists_unsigned? _ (by decide)]

/-! ## All settings -/

/-- A group is read alike from two trees. -/
theorem readGroup?_congr {root root' : List (String × Node)} (same : SameGroups root root')
    {name : String} {names : List String} (hgroup : (name, names) ∈ groups)
    {read : Group → Except Problem α} (h : ReadsOnly names read) :
    readGroup? root name read = readGroup? root' name read := by
  rw [readGroup?, readGroup?]
  rcases same _ hgroup with ⟨hnone, hnone'⟩ | ⟨es, es', hes, hes', hvalues⟩
  · rw [hnone, hnone']
  · rw [hes, hes']
    exact congrArg (Except.map some) (h es es' hvalues)

/-- So are all settings. -/
theorem read_congr {root root' : List (String × Node)} (same : SameGroups root root') :
    read root = read root' := by
  rw [read, read, readGroup?_congr same (by decide) readsOnly_server,
    readGroup?_congr same (by decide) readsOnly_database,
    readGroup?_congr same (by decide) readsOnly_redis,
    readGroup?_congr same (by decide) readsOnly_identifiers,
    readGroup?_congr same (by decide) readsOnly_engagement,
    readGroup?_congr same (by decide) readsOnly_sizes]

end Forum.Settings
