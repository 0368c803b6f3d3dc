import Mathlib
import Forum.Proofs.Settings.Node
import Forum.Settings.Load

/-!
# Layers of settings

What a layer gives, and what is found in a tree after it was merged into it. A layer that gives the
groups as tables acts on each setting alone, and what becomes of the setting depends only on what it
was before. If it was nothing, or if the layer does not give it as a table, it has the value from
the layer if the layer gives one, and the value from before if not. So among several layers the last
one that gives a setting decides it.
-/

namespace Forum.Settings

/-- The groups of settings, with their settings. -/
def groups : List (String × List String) :=
  [("server", ["host", "port"]), ("database", ["url", "max_connections", "min_connections"]),
    ("redis", ["url", "prefix"]), ("id", ["epoch", "worker_id"]),
    ("engagement", ["backend", "auto_register", "deadline_ms", "max_commit_retries"]),
    ("pagination", ["default_page_size", "max_page_size"])]

/-- A layer: keys at the root with their values. -/
abbrev Layer := List (String × Node)

namespace Node

variable {group name : String}

/-- What counts of a value: of a list only that it is one, because nothing is read from it. -/
def bare : Node → Node
  | list _ => list []
  | n => n

/-- What stands under a name in a group of a tree. -/
def under? (group name : String) (root : Node) : Option Node :=
  (lookup? group root.entries).bind fun g => lookup? name g.entries

/-- The value of a setting in a tree, as far as it counts. -/
def at? (group name : String) (root : Node) : Option Node :=
  (root.under? group name).map bare

/-- Whether the groups that are there are tables. -/
def Grouped (root : Node) : Prop :=
  ∀ g ∈ groups, ∀ n, lookup? g.1 root.entries = some n → n.IsTable

/-- An empty tree has no group at all. -/
theorem grouped_empty : (table []).Grouped :=
  fun _ _ _ h => nomatch h

/-- A group that is not there has no entries, whatever stands for it. -/
theorem lookup?_getD (old : Option Node) {n : Node} (hn : n.entries = []) :
    lookup? name (old.getD n).entries = old.bind fun n => lookup? name n.entries := by
  cases old with
  | none => rw [Option.getD_none, hn]; rfl
  | some n => rfl

end Node

/-- The path of a key. -/
def pathOf (key : String) : Path :=
  (Path.parse? key).getD (.name key)

/-- A key is given a value at its path. -/
theorem setKey_eq (key : String) (value root : Node) :
    setKey key value root = (pathOf key).set value root := by
  rw [setKey, pathOf]
  cases Path.parse? key <;> rfl

/-- Whether a value, set some steps below a group with the given settings, gives the group as a
table and none of the settings as a table. -/
inductive Given (names : List String) : List Step → Node → Prop
  /-- It is the group. -/
  | group {es : List (String × Node)}
    (h : ∀ e ∈ es, LetterCase.lower e.1 ∈ names → ¬ e.2.IsTable) : Given names [] (.table es)
  /-- It is the value of a name in the group. -/
  | value {s : String} {v : Node} (h : LetterCase.lower s ∈ names → ¬ v.IsTable) :
    Given names [.name s] v
  /-- It belongs to a list under a name in the group. -/
  | item {s : String} {n : Int} {rest : List Step} {v : Node} :
    Given names (.name s :: .place n :: rest) v
  /-- It belongs to a table under a name that is no setting. -/
  | below {s s' : String} {rest : List Step} {v : Node} (h : LetterCase.lower s ∉ names) :
    Given names (.name s :: .name s' :: rest) v

section put

variable {names : List String} {steps : List Step} {value : Node} {name : String}

/-- What is not given as a table for several settings is not for some of them. -/
theorem Given.mono (h : Given names steps value) {names' : List String} (sub : names' ⊆ names) :
    Given names' steps value := by
  cases h with
  | group h => exact .group fun e he hlower => h e he (sub hlower)
  | value h => exact .value fun hlower => h (sub hlower)
  | item => exact .item
  | below h => exact .below fun hlower => h (sub hlower)

/-- The group stays a table. -/
theorem Given.isTable_put (h : Given names steps value) {old : Option Node}
    (hold : ∀ n, old = some n → n.IsTable) : (Path.put value steps old).IsTable := by
  cases h with
  | group =>
    refine Node.isTable_setAll ?_ _
    cases old with
    | none => exact ⟨[], rfl⟩
    | some n => exact hold n rfl
  | value => cases value <;> exact Node.isTable_set _ _ _
  | item => cases value <;> exact ⟨_, rfl⟩
  | below => cases value <;> exact ⟨_, rfl⟩

/-- A value one step below a group is set in the group under the name of the step. -/
theorem put_name (value : Node) (s : String) (old : Option Node) :
    Path.put value [.name s] old = Node.set s value (old.getD .nothing) := by
  cases value <;> rfl

/-- What becomes of a setting depends on what it was before, and on nothing else in the group. -/
theorem Given.lookup?_put_congr (h : Given names steps value) {old old' : Option Node}
    (same : (old.bind fun n => Node.lookup? name n.entries) =
      old'.bind fun n => Node.lookup? name n.entries) :
    Node.lookup? name (Path.put value steps old).entries =
      Node.lookup? name (Path.put value steps old').entries := by
  have hsame : ∀ n : Node, n.entries = [] → Node.lookup? name (old.getD n).entries =
      Node.lookup? name (old'.getD n).entries := by
    intro n hn
    rw [Node.lookup?_getD old hn, Node.lookup?_getD old' hn, same]
  cases h with
  | group => exact Node.lookup?_setAll_congr (hsame _ rfl) _
  | value =>
    rw [put_name, put_name]
    exact Node.lookup?_set_congr (hsame _ rfl) _ _
  | @item s n rest v | @below s n rest v =>
    rw [Path.put_name_step, Path.put_name_step, Node.entries, Node.lookup?_alter, Node.entries,
      Node.lookup?_alter, hsame _ rfl]
    split
    · next hname => rw [← hname, hsame _ rfl]
    · rfl

/-- A setting has the value that is given to it, or else the one from before. -/
theorem Given.lookup?_put (h : Given names steps value) (hname : name ∈ names)
    (old : Option Node) : (Node.lookup? name (Path.put value steps old).entries).map Node.bare =
      ((Node.lookup? name (Path.put value steps none).entries).map Node.bare).or
        ((old.bind fun n => Node.lookup? name n.entries).map Node.bare) := by
  cases h with
  | @group es h =>
    rw [← Option.map_or]
    have hset : Node.lookup? name (Node.setAll es (old.getD (.table []))).entries = _ :=
      Node.lookup?_setAll (fun e he hlower => h e he (hlower ▸ hname)) _
    rw [Node.lookup?_getD old rfl] at hset
    exact congrArg (Option.map Node.bare) hset
  | @value s v h =>
    rw [← Option.map_or, put_name, put_name]
    by_cases hs : name = LetterCase.lower s
    · have hv := h (hs ▸ hname)
      rw [hs, Node.lookup?_set_of_not_table hv, Node.lookup?_set_of_not_table hv]
      rfl
    · rw [Node.lookup?_set_of_ne hs, Node.lookup?_set_of_ne hs, Node.lookup?_getD old rfl]
      rfl
  | @item s n rest v =>
    -- The name has a list now, and of a list only that counts.
    have hlist : ∀ v, (Path.write value (.place n :: rest) v).bare = .list [] := fun _ => rfl
    rw [Path.put_name_step, Path.put_name_step, Node.entries, Node.lookup?_alter, Node.entries,
      Node.lookup?_alter]
    by_cases hs : name = LetterCase.lower s
    · rw [if_pos hs, if_pos hs, Option.map_some, Option.map_some, hlist, hlist]
      rfl
    · rw [if_neg hs, if_neg hs, Node.lookup?_getD old rfl]
      rfl
  | @below s s' rest v h =>
    have hs : name ≠ LetterCase.lower s := fun same => h (same ▸ hname)
    rw [Path.put_name_step, Path.put_name_step, Node.entries, Node.lookup?_alter, Node.entries,
      Node.lookup?_alter, if_neg hs, if_neg hs, Node.lookup?_getD old rfl]
    rfl

end put

/-! ## One layer after another -/

namespace Layer

/-- Whether a layer gives a group as a table, and none of some settings in it as a table. -/
def PlainAt (layer : Layer) (group : String) (names : List String) : Prop :=
  ∀ e ∈ layer, LetterCase.lower (pathOf e.1).base = group → Given names (pathOf e.1).steps e.2

/-- Whether a layer gives the groups as tables. -/
def Grouped (layer : Layer) : Prop :=
  ∀ g ∈ groups, layer.PlainAt g.1 []

/-- Whether what a layer gives to a setting takes the place of what was there, because it is no
table. -/
def Replaces (layer : Layer) (group name : String) : Prop :=
  layer.PlainAt group [name]

/-- Whether a layer gives groups as tables and settings not as tables. -/
def Plain (layer : Layer) : Prop :=
  ∀ g ∈ groups, layer.PlainAt g.1 g.2

/-- A layer of tables under the names of groups is plain, if no table stands in one of them. -/
theorem plain_of_groups {layer : Layer} (h : ∀ e ∈ layer, ∃ s es, pathOf e.1 = .name s ∧
    e.2 = .table es ∧ ∀ entry ∈ es, ¬ entry.2.IsTable) : layer.Plain := by
  intro g hg e he hbase
  obtain ⟨s, es, hpath, hvalue, hes⟩ := h e he
  rw [hpath, hvalue]
  exact .group fun entry hentry _ => hes entry hentry

/-- The tree of a layer alone. -/
def tree (layer : Layer) : Node :=
  merge layer (.table [])

/-- What a layer gives to a setting. -/
def value? (layer : Layer) (group name : String) : Option Node :=
  layer.tree.at? group name

/-- Whether a layer gives a group, with or without settings in it. -/
def has (layer : Layer) (group : String) : Bool :=
  (Node.lookup? group layer.tree.entries).isSome

variable {layer : Layer} {root : Node} {group name : String} {names : List String}

/-- Only what counts is given. -/
theorem bare_of_value? {v : Node} (h : layer.value? group name = some v) : v.bare = v := by
  obtain ⟨n, -, rfl⟩ := Option.map_eq_some_iff.1 h
  cases n <;> rfl

/-- A layer with one more entry in front. -/
theorem merge_cons (e : String × Node) (layer : Layer) (root : Node) :
    merge (e :: layer) root = merge layer ((pathOf e.1).set e.2 root) := by
  rw [← setKey_eq]
  rfl

/-- A part of a layer gives no more as tables. -/
theorem PlainAt.mono (h : layer.PlainAt group names) {layer' : Layer} {names' : List String}
    (sub : layer' ⊆ layer) (fewer : names' ⊆ names) : layer'.PlainAt group names' :=
  fun e he hbase => (h e (sub he) hbase).mono fewer

theorem PlainAt.of_cons {e : String × Node} (h : PlainAt (e :: layer) group names) :
    layer.PlainAt group names :=
  h.mono (List.subset_cons_self e layer) (List.Subset.refl names)

/-- A plain layer gives groups as tables. -/
theorem Plain.grouped (h : layer.Plain) : layer.Grouped :=
  fun g hg => (h g hg).mono (List.Subset.refl layer) (List.nil_subset _)

/-- What it gives to settings takes the place of what was there. -/
theorem Plain.replaces (h : layer.Plain) {g : String × List String} (hg : g ∈ groups)
    (hname : name ∈ g.2) : layer.Replaces g.1 name :=
  (h g hg).mono (List.Subset.refl layer) (List.cons_subset.2 ⟨hname, List.nil_subset _⟩)

/-- An entry at the front leaves groups tables. -/
theorem Grouped.grouped_set {e : String × Node} (h : Grouped (e :: layer)) (hroot : root.Grouped) :
    ((pathOf e.1).set e.2 root).Grouped := by
  intro g hg n hn
  rw [Path.lookup?_set] at hn
  by_cases hbase : g.1 = LetterCase.lower (pathOf e.1).base
  · rw [if_pos hbase, Option.some_inj] at hn
    subst hn
    refine (h g hg e List.mem_cons_self hbase.symm).isTable_put fun n hn => ?_
    rw [← hbase] at hn
    exact hroot g hg n hn
  · rw [if_neg hbase] at hn
    exact hroot g hg n hn

/-- So does a layer. -/
theorem Grouped.grouped_merge (h : layer.Grouped) (hroot : root.Grouped) :
    (merge layer root).Grouped := by
  induction layer generalizing root with
  | nil => exact hroot
  | cons e layer ih =>
    rw [merge_cons]
    exact ih (fun g hg => (h g hg).of_cons) (h.grouped_set hroot)

/-- What an entry makes of a setting depends on what the setting was before. -/
theorem PlainAt.under?_set_congr {e : String × Node} (h : PlainAt (e :: layer) group names)
    {root' : Node} (same : root.under? group name = root'.under? group name) :
    ((pathOf e.1).set e.2 root).under? group name =
      ((pathOf e.1).set e.2 root').under? group name := by
  rw [Node.under?, Node.under?, Path.lookup?_set, Path.lookup?_set]
  by_cases hbase : group = LetterCase.lower (pathOf e.1).base
  · rw [if_pos hbase, if_pos hbase, ← hbase]
    exact (h e List.mem_cons_self hbase.symm).lookup?_put_congr same
  · rw [if_neg hbase, if_neg hbase]
    exact same

/-- So does what a layer makes of it. -/
theorem PlainAt.under?_merge_congr (h : layer.PlainAt group names) {root' : Node}
    (same : root.under? group name = root'.under? group name) :
    (merge layer root).under? group name = (merge layer root').under? group name := by
  induction layer generalizing root root' with
  | nil => exact same
  | cons e layer ih =>
    rw [merge_cons, merge_cons]
    exact ih h.of_cons (h.under?_set_congr same)

/-- An entry gives a setting its value, or leaves it the one from before. -/
theorem PlainAt.at?_set {e : String × Node} (h : PlainAt (e :: layer) group names)
    (hname : name ∈ names) (root : Node) :
    ((pathOf e.1).set e.2 root).at? group name =
      (((pathOf e.1).set e.2 (.table [])).at? group name).or (root.at? group name) := by
  rw [Node.at?, Node.at?, Node.at?, Node.under?, Node.under?, Node.under?, Path.lookup?_set,
    Path.lookup?_set]
  by_cases hbase : group = LetterCase.lower (pathOf e.1).base
  · rw [if_pos hbase, if_pos hbase, ← hbase]
    exact (h e List.mem_cons_self hbase.symm).lookup?_put hname _
  · rw [if_neg hbase, if_neg hbase]
    rfl

/-- After a layer was merged into a tree, a setting that the layer does not give as a table has the
value that the layer gives, or else the one from before. -/
theorem Replaces.at?_merge (h : layer.Replaces group name) (root : Node) :
    (merge layer root).at? group name = (layer.value? group name).or (root.at? group name) := by
  induction layer generalizing root with
  | nil => rfl
  | cons e layer ih =>
    rw [value?, tree, merge_cons, merge_cons, ih h.of_cons,
      ih h.of_cons ((pathOf e.1).set e.2 (.table [])),
      h.at?_set (List.mem_singleton_self name), Option.or_assoc]

/-- So has a setting that had no value before. -/
theorem PlainAt.at?_merge (h : layer.PlainAt group names)
    (hsetting : layer.Replaces group name ∨ root.at? group name = none) :
    (merge layer root).at? group name = (layer.value? group name).or (root.at? group name) := by
  rcases hsetting with hreplaces | habsent
  · exact hreplaces.at?_merge root
  · have hnothing : root.under? group name = Node.under? group name (.table []) :=
      Option.map_eq_none_iff.1 habsent
    rw [habsent, Option.or_none, Node.at?, h.under?_merge_congr hnothing]
    rfl

/-- A group is there if it was before, or if the layer gives it. -/
theorem isSome_lookup?_merge (layer : Layer) (root : Node) (group : String) :
    (Node.lookup? group (merge layer root).entries).isSome =
      (layer.has group || (Node.lookup? group root.entries).isSome) := by
  induction layer generalizing root with
  | nil => rfl
  | cons e layer ih =>
    rw [has, tree, merge_cons, merge_cons, ih, ih ((pathOf e.1).set e.2 (.table [])),
      Path.lookup?_set, Path.lookup?_set]
    by_cases hbase : group = LetterCase.lower (pathOf e.1).base
    · simp [hbase]
    · rw [if_neg hbase, if_neg hbase, Bool.or_assoc]
      rfl

/-- Two layers give the groups of both. -/
theorem has_append (layer layer' : Layer) (group : String) :
    has (layer ++ layer') group = (layer'.has group || layer.has group) := by
  rw [has, tree, merge, List.foldl_append]
  exact isSome_lookup?_merge layer' layer.tree group

end Layer

end Forum.Settings
