import Mathlib
import Forum.Proofs.Settings.Layers
import Forum.Settings.Environment

/-!
# Variables

What the variables of a process give to settings, and what a file adds to them.
-/

/-! ## Variables as a layer

What variables give to settings. The name of a variable alone says which setting it gives, because
no variable has a table as its value. So leaving out variables that give another one makes no
difference to a setting. -/

namespace Forum.Settings.Environment

/-- The group in which a variable of some name sets something. -/
def group? (name : String) : Option String :=
  (settingName? name).map fun key => LetterCase.lower (pathOf key).base

/-- The setting that a variable of some name gives, with its group. -/
def setting? (name : String) : Option (String × String) :=
  (settingName? name).bind fun key =>
    match (pathOf key).steps with
    | .name s :: _ => some (LetterCase.lower (pathOf key).base, LetterCase.lower s)
    | _ => none

variable {group name : String} {names : List String} {env : Environment}

/-- No variable has a table as its value. -/
theorem not_isTable_valueOf (text : String) : ¬ (valueOf text).IsTable := by
  rintro ⟨es, h⟩
  rw [valueOf] at h
  split_ifs at h
  split at h <;> cases h

/-- A value other than a table that is set below a group gives the setting that the first step
names. -/
theorem isSome_lookup?_put {s : String} {rest : List Step} {value : Node}
    (h : Given names (.name s :: rest) value) (hvalue : ¬ value.IsTable) (old : Option Node) :
    (Node.lookup? (LetterCase.lower s) (Path.put value (.name s :: rest) old).entries).isSome := by
  cases h with
  | value =>
    rw [put_name, Node.lookup?_set_of_not_table hvalue]
    rfl
  | item | below =>
    rw [Path.put_name_step, Node.entries, Node.lookup?_alter, if_pos rfl]
    rfl

/-- It leaves the other ones as they are. -/
theorem lookup?_put_of_ne {steps : List Step} {value : Node} (h : Given names steps value)
    (hvalue : ¬ value.IsTable) (hne : ∀ s rest, steps = .name s :: rest → name ≠ LetterCase.lower s)
    (old : Option Node) : Node.lookup? name (Path.put value steps old).entries =
      old.bind fun n => Node.lookup? name n.entries := by
  cases h with
  | group => exact absurd ⟨_, rfl⟩ hvalue
  | value =>
    rw [put_name, Node.lookup?_set_of_ne (hne _ _ rfl), Node.lookup?_getD old rfl]
  | item | below =>
    rw [Path.put_name_step, Node.entries, Node.lookup?_alter, if_neg (hne _ _ rfl),
      Node.lookup?_getD old rfl]

/-- The layer of one variable has the entry that its name says, or none. -/
theorem settings_singleton (v : String × String) :
    settings [v] = ((settingName? v.1).map (·, valueOf v.2)).toList := by
  cases hkey : settingName? v.1 <;> simp [settings, hkey]

section single

variable {v : String × String} {root : Node}

/-- A variable gives the setting that its name says. -/
theorem isSome_under?_of_setting (h : Layer.PlainAt (settings [v]) group names)
    (hsets : setting? v.1 = some (group, name)) :
    ((merge (settings [v]) root).under? group name).isSome := by
  obtain ⟨key, hkey, hsteps⟩ := Option.bind_eq_some_iff.1 hsets
  rw [settings_singleton, hkey, Option.map_some, Option.toList_some] at h ⊢
  split at hsteps
  · next s rest hpath =>
    obtain ⟨rfl, rfl⟩ := Prod.mk.inj (Option.some.inj hsteps)
    have hgiven := h _ List.mem_cons_self rfl
    rw [hpath] at hgiven
    rw [Layer.merge_cons, Node.under?]
    change ((Node.lookup? _ ((pathOf key).set _ root).entries).bind _).isSome
    rw [Path.lookup?_set, if_pos rfl, Option.bind_some, hpath]
    exact isSome_lookup?_put hgiven (not_isTable_valueOf v.2) _
  · cases hsteps

/-- It leaves the other ones as they are. -/
theorem under?_of_setting_ne (h : Layer.PlainAt (settings [v]) group names)
    (hsets : setting? v.1 ≠ some (group, name)) :
    (merge (settings [v]) root).under? group name = root.under? group name := by
  cases hkey : settingName? v.1 with
  | none =>
    rw [settings_singleton, hkey]
    rfl
  | some key =>
    rw [settings_singleton, hkey, Option.map_some, Option.toList_some] at h ⊢
    rw [Layer.merge_cons, Node.under?]
    change (Node.lookup? group ((pathOf key).set _ root).entries).bind _ = _
    rw [Path.lookup?_set]
    by_cases hbase : group = LetterCase.lower (pathOf key).base
    · rw [if_pos hbase, Option.bind_some, ← hbase]
      refine lookup?_put_of_ne (h _ List.mem_cons_self hbase.symm) (not_isTable_valueOf v.2) ?_ _
      rintro s rest hpath rfl
      refine hsets ?_
      rw [setting?, hkey, Option.bind_some, hpath, hbase]
    · rw [if_neg hbase]
      rfl

end single

/-- Variables that are named by a group and a name in it are a plain layer. -/
theorem plain_settings (h : ∀ v ∈ env, ∀ key ∈ settingName? v.1,
    ∃ s s', pathOf key = .child (.name s) s') : Layer.Plain (settings env) := by
  intro g hg e he hbase
  obtain ⟨v, hv, hsets⟩ := List.mem_filterMap.1 he
  obtain ⟨key, hkey, rfl⟩ := Option.map_eq_some_iff.1 hsets
  obtain ⟨s, s', hpath⟩ := h v hv key hkey
  rw [hpath]
  exact .value fun _ => not_isTable_valueOf v.2

/-- The settings among the variables of two environments are those of both. -/
theorem settings_append (env other : Environment) :
    settings (env ++ other) = settings env ++ settings other :=
  List.filterMap_append

/-- So the settings among variables are those of the first one and those of the rest. -/
theorem settings_cons (v : String × String) (env : Environment) :
    settings (v :: env) = settings [v] ++ settings env :=
  settings_append [v] env

/-- What variables do not give as a table is given as one neither by the first nor by the others. -/
theorem plainAt_settings_cons {v : String × String}
    (h : Layer.PlainAt (settings (v :: env)) group names) :
    Layer.PlainAt (settings [v]) group names ∧ Layer.PlainAt (settings env) group names := by
  rw [settings_cons] at h
  exact ⟨h.mono (List.subset_append_left _ _) (List.Subset.refl names),
    h.mono (List.subset_append_right _ _) (List.Subset.refl names)⟩

/-- Merging variables is merging the first one, then the others. -/
theorem merge_settings_cons (v : String × String) (env : Environment) (root : Node) :
    merge (settings (v :: env)) root = merge (settings env) (merge (settings [v]) root) := by
  rw [settings_cons, merge, List.foldl_append]
  rfl

/-- Variables give the settings that their names say, and leave the other ones as they are. -/
theorem isSome_under?_settings (h : Layer.PlainAt (settings env) group names) (root : Node) :
    ((merge (settings env) root).under? group name).isSome ↔
      (∃ v ∈ env, setting? v.1 = some (group, name)) ∨ (root.under? group name).isSome := by
  induction env generalizing root with
  | nil => exact ⟨.inr, fun h => h.resolve_left fun ⟨_, hv, _⟩ => List.not_mem_nil hv⟩
  | cons v env ih =>
    obtain ⟨hfirst, hrest⟩ := plainAt_settings_cons h
    rw [merge_settings_cons, ih hrest, List.exists_mem_cons_iff, or_assoc, or_left_comm]
    by_cases hsets : setting? v.1 = some (group, name)
    · exact iff_of_true (.inr (isSome_under?_of_setting hfirst hsets)) (.inr (.inl hsets))
    · rw [under?_of_setting_ne hfirst hsets, or_iff_right (a := setting? v.1 = _) hsets]

/-- So a setting has a value from variables if one of them says so. -/
theorem isSome_value?_settings (h : Layer.PlainAt (settings env) group names) :
    (Layer.value? (settings env) group name).isSome ↔
      ∃ v ∈ env, setting? v.1 = some (group, name) := by
  rw [Layer.value?, Node.at?, Option.isSome_map, Layer.tree, isSome_under?_settings h]
  exact or_iff_left Bool.false_ne_true

/-- Leaving out variables that do not give a setting makes no difference to it. -/
theorem under?_settings_filter (h : Layer.PlainAt (settings env) group names)
    {keep : String × String → Bool} (hkeep : ∀ v ∈ env, setting? v.1 = some (group, name) → keep v)
    {root root' : Node} (same : root.under? group name = root'.under? group name) :
    (merge (settings (env.filter keep)) root).under? group name =
      (merge (settings env) root').under? group name := by
  induction env generalizing root root' with
  | nil => exact same
  | cons v env ih =>
    obtain ⟨hfirst, hrest⟩ := plainAt_settings_cons h
    have hothers : ∀ v ∈ env, setting? v.1 = some (group, name) → keep v :=
      fun v hv => hkeep v (List.mem_cons_of_mem _ hv)
    rw [merge_settings_cons]
    by_cases hv : keep v
    · rw [List.filter_cons_of_pos hv, merge_settings_cons]
      exact ih hrest hothers (hfirst.under?_merge_congr same)
    · have hsets : setting? v.1 ≠ some (group, name) :=
        fun hsets => hv (hkeep v List.mem_cons_self hsets)
      rw [List.filter_cons_of_neg hv]
      exact ih hrest hothers (same.trans (under?_of_setting_ne hfirst hsets).symm)

/-- The same for what they give to it. -/
theorem value?_settings_filter (h : Layer.PlainAt (settings env) group names)
    {keep : String × String → Bool}
    (hkeep : ∀ v ∈ env, setting? v.1 = some (group, name) → keep v) :
    Layer.value? (settings (env.filter keep)) group name =
      Layer.value? (settings env) group name :=
  congrArg (Option.map Node.bare) (under?_settings_filter h hkeep rfl)

/-- Variables that do not give a setting leave it as it is. -/
theorem under?_merge_settings (h : Layer.PlainAt (settings env) group names)
    (hnone : ∀ v ∈ env, setting? v.1 ≠ some (group, name)) (root : Node) :
    (merge (settings env) root).under? group name = root.under? group name := by
  have hkeep : ∀ v ∈ env, setting? v.1 = some (group, name) →
      (fun _ : String × String => false) v = true :=
    fun v hv hsets => absurd hsets (hnone v hv)
  have hempty : env.filter (fun _ => false) = [] := List.filter_eq_nil_iff.2 fun _ _ => nofun
  have hall := under?_settings_filter h hkeep (Eq.refl (root.under? group name))
  rw [hempty] at hall
  exact hall.symm

/-- A variable gives the group that its name says. -/
theorem has_singleton (v : String × String) (group : String) :
    Layer.has (settings [v]) group ↔ group? v.1 = some group := by
  rw [group?, settings_singleton]
  cases settingName? v.1 with
  | none => exact iff_of_false Bool.false_ne_true (Option.some_ne_none _).symm
  | some key =>
    rw [Option.map_some, Option.toList_some, Layer.has, Layer.tree, Layer.merge_cons]
    change (Node.lookup? group ((pathOf key).set _ (.table [])).entries).isSome ↔ _
    rw [Path.lookup?_set, Option.map_some, Option.some_inj]
    by_cases hbase : LetterCase.lower (pathOf key).base = group
    · simp [hbase]
    · rw [if_neg (Ne.symm hbase)]
      exact iff_of_false Bool.false_ne_true hbase

/-- Variables give the groups that their names say. -/
theorem has_settings (env : Environment) (group : String) :
    Layer.has (settings env) group ↔ ∃ v ∈ env, group? v.1 = some group := by
  induction env with
  | nil => exact iff_of_false Bool.false_ne_true fun ⟨_, hv, _⟩ => List.not_mem_nil hv
  | cons v env ih =>
    rw [settings_cons, Layer.has_append, Bool.or_eq_true, ih, has_singleton,
      List.exists_mem_cons_iff, or_comm]

end Forum.Settings.Environment

/-! ## Variables of a file

A file whose lines can all be read, and in which no value depends on another variable, sets the
same variables wherever it is read. Only those of them that the process has already are left out,
and so the environment afterwards is that of the process with the rest of the file behind it. -/

namespace Forum.Settings

namespace Environment

variable {env : Environment} {name : String}

/-- A variable has a value if it is among the variables. -/
theorem isSome_get?_iff : (env.get? name).isSome ↔ ∃ v ∈ env, v.1 = name := by
  simp [get?, List.find?_isSome]

/-- The variables that another environment does not have. -/
def besides (env other : Environment) : Environment :=
  env.filter fun v => (other.get? v.1).isNone

/-- A variable of two environments, one behind the other, is looked up in the first one first. -/
theorem get?_append (env other : Environment) (name : String) :
    get? (env ++ other) name = (env.get? name).or (other.get? name) := by
  rw [get?, get?, get?, List.find?_append, Option.map_or]

/-- Leaving out what the first one has makes no difference there. -/
theorem get?_append_besides (env other : Environment) (name : String) :
    get? (env ++ other.besides env) name = (env.get? name).or (other.get? name) := by
  rw [get?_append]
  cases hfound : env.get? name with
  | some value => rfl
  | none =>
    rw [Option.none_or, Option.none_or, besides, get?, List.find?_filter, get?]
    congr 2
    funext v
    by_cases hv : v.1 = name
    · simp [hv, hfound]
    · simp [hv]

/-- Adding a variable behind the variables that another environment does not have. -/
theorem setIfAbsent_append_besides (env other : Environment) (name value : String) :
    setIfAbsent (env ++ other.besides env) name value =
      env ++ (other.setIfAbsent name value).besides env := by
  have hget := get?_append_besides env other name
  rw [setIfAbsent, setIfAbsent, hget]
  cases hother : other.get? name with
  | some _ => simp
  | none =>
    cases henv : env.get? name <;> simp [besides, List.filter_append, henv]

end Environment

namespace EnvFile

/-- The lines of a file, as they are read. -/
def lines (text : String) : List (Option (List Char)) :=
  logicalLines [] .plain (physicalLines (match text.toList with
    | '\uFEFF' :: rest => rest
    | cs => cs))

/-- Whether a line sets the same whatever variables there are: its value is not put together from
others. -/
def Fixed (line : List Char) (sets : Option (String × String)) : Prop :=
  ∀ env, readLine? env line = some sets

/-- Whether every line of a file can be read, and needs no other variable. -/
def WellFormed (text : String) : Prop :=
  ∀ line ∈ lines text, ∃ cs sets, line = some cs ∧ Fixed cs sets

/-- Such lines add to an environment what they set in an empty one. -/
theorem loadLines_append_besides {lines : List (Option (List Char))}
    (h : ∀ line ∈ lines, ∃ cs sets, line = some cs ∧ Fixed cs sets) (env read : Environment) :
    loadLines lines (env ++ read.besides env) = env ++ (loadLines lines read).besides env := by
  induction lines generalizing read with
  | nil => rfl
  | cons line lines ih =>
    obtain ⟨cs, sets, rfl, hfixed⟩ := h line List.mem_cons_self
    have hrest := ih fun line hline => h line (List.mem_cons_of_mem _ hline)
    cases sets with
    | none =>
      rw [loadLines, hfixed, loadLines, hfixed]
      exact hrest read
    | some v =>
      rw [loadLines, hfixed, loadLines, hfixed]
      dsimp only
      rw [Environment.setIfAbsent_append_besides]
      exact hrest _

/-- A well-formed file adds to the variables of the process those that the process does not
have. -/
theorem load_of_wellFormed {text : String} (h : WellFormed text) (env : Environment) :
    load text env = env ++ (load text []).besides env := by
  have hload := loadLines_append_besides h env []
  rw [Environment.besides, List.filter_nil, List.append_nil] at hload
  exact hload

end EnvFile

end Forum.Settings
