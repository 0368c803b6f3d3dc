import Mathlib
import Forum.Proofs.Settings.Reading
import Forum.Proofs.Settings.Variables

/-!
# Which layer decides a setting

Settings come from variables of the process, variables of a file, the file of the environment, the
file of defaults and the usual values, and the first of them that gives a setting decides it. So a
value that is given below the deciding one can be any other value, and neither the settings nor the
problem with them change. The layers are not as independent as that when one of them gives a setting
as a table that a lower one gives as well, because the table is merged into what it finds, or when a
variable of the file spells a setting in another way than one of the process, which it then
overrides.
-/

namespace Forum.Settings

/-! ## One layer for several -/

/-- A group of settings in several layers, the first of which decides each setting. -/
def combinedGroup (layers : List Layer) (g : String × List String) : Option Node :=
  if layers.any (·.has g.1) then
    some (.table (g.2.filterMap fun name =>
      (layers.findSome? (·.value? g.1 name)).map (name, ·)))
  else none

/-- The tree of several layers, the first of which decides each setting. -/
def combined (layers : List Layer) : List (String × Node) :=
  groups.filterMap fun g => (combinedGroup layers g).map (g.1, ·)

/-- What is found in a list that has an entry at most for each of some keys. -/
theorem Node.lookup?_filterMap {β : Type} (key : β → String) (f : β → Option Node) {bs : List β}
    (nodup : (bs.map key).Nodup) {b : β} (hb : b ∈ bs) :
    lookup? (key b) (bs.filterMap fun b => (f b).map (key b, ·)) = f b := by
  induction bs with
  | nil => exact absurd hb List.not_mem_nil
  | cons c bs ih =>
    rw [List.map_cons, List.nodup_cons] at nodup
    rcases List.mem_cons.1 hb with rfl | hb
    · cases hf : f b with
      | some v => simp [hf, lookup?]
      | none =>
        have habsent : ∀ e ∈ bs.filterMap fun b => (f b).map (key b, ·), e.1 ≠ key b := by
          intro e he same
          obtain ⟨c, hc, hce⟩ := List.mem_filterMap.1 he
          obtain ⟨v, -, rfl⟩ := Option.map_eq_some_iff.1 hce
          exact nodup.1 (same ▸ List.mem_map_of_mem hc)
        simp only [List.filterMap_cons, hf, Option.map_none, lookup?, Option.map_eq_none_iff,
          List.find?_eq_none, decide_eq_true_eq]
        exact habsent
    · have hne : key b ≠ key c := fun same => nodup.1 (same ▸ List.mem_map_of_mem hb)
      cases hf : f c with
      | some v => simpa [hf, lookup?_cons, hne] using ih nodup.2 hb
      | none => simpa [hf] using ih nodup.2 hb

/-- The groups have different names. -/
theorem nodup_groups : (groups.map (·.1)).Nodup := by
  decide

/-- So have the settings of each group. -/
theorem nodup_names : ∀ g ∈ groups, (g.2.map id).Nodup := by
  decide

/-! ## Where settings come from -/

/-- Whether what a layer gives to settings takes the place of what a lower one gives to them. -/
def Layer.Covers (layer lower : Layer) : Prop :=
  ∀ g ∈ groups, ∀ name ∈ g.2, layer.Replaces g.1 name ∨ lower.value? g.1 name = none

/-- A layer that gives no setting as a table covers every other one. -/
theorem Layer.Plain.covers {layer : Layer} (h : layer.Plain) (lower : Layer) :
    layer.Covers lower :=
  fun _ hg _ hname => .inl (h.replaces hg hname)

/-- What the settings of a process come from: its variables, those of a file that adds some, the
file that the environment selects, and the file of defaults. The files can be read, no variable of
the file depends on another one, groups are given as tables, a setting is given as a table only
where no lower layer gives it, and no setting is given by two variables of different names. -/
structure Sources [Formats] where
  /-- The variables of the process. -/
  env : Environment
  /-- The files. -/
  files : Files
  /-- The variables of the file that adds some. -/
  dotenv : Environment
  /-- What the file of the environment gives. -/
  specific : Layer
  /-- What the file of defaults gives. -/
  general : Layer
  /-- The variables are those of the file, whatever the process has. -/
  sets_dotenv : match files.get? (pathParts envFileName) with
    | some text => EnvFile.WellFormed text ∧ EnvFile.load text [] = dotenv
    | none => dotenv = []
  /-- The environment is named by the process, or else by the file. -/
  reads_specific : layerOf files ("config/" ++
    ((env.get? "AGORA_ENV").or (dotenv.get? "AGORA_ENV")).getD "development") = .ok specific
  /-- The defaults are always read. -/
  reads_general : layerOf files "config/default" = .ok general
  /-- Groups are given as tables. -/
  grouped : ∀ layer ∈ [env.settings, dotenv.settings, specific, general], Layer.Grouped layer
  /-- A setting that a layer and a lower one give is no table in the first of the two. -/
  covers : [env.settings, dotenv.settings, specific, general].Pairwise Layer.Covers
  /-- The process and the file do not spell a setting in different ways. -/
  spelled : ∀ g ∈ groups, ∀ name ∈ g.2, ∀ v ∈ env, ∀ v' ∈ dotenv,
    Environment.setting? v.1 = some (g.1, name) → Environment.setting? v'.1 = some (g.1, name) →
      v.1 = v'.1

namespace Sources

variable [Formats] (s : Sources)

/-- The layers, the strongest first. -/
def layers : List Layer :=
  [s.env.settings, s.dotenv.settings, s.specific, s.general]

/-- The variables of the file that the process does not have. -/
def added : Environment :=
  s.dotenv.besides s.env

/-- They are added behind those of the process. -/
theorem fullEnvironment_eq : fullEnvironment s.env s.files = s.env ++ s.added := by
  have hfile := s.sets_dotenv
  rw [fullEnvironment]
  cases hget : s.files.get? (pathParts envFileName) with
  | none =>
    rw [hget] at hfile
    rw [added, hfile]
    exact (List.append_nil s.env).symm
  | some text =>
    rw [hget] at hfile
    rw [added, ← hfile.2]
    exact EnvFile.load_of_wellFormed hfile.1 s.env

/-- All layers merged, the strongest last. -/
def merged : Node :=
  merge s.added.settings (merge s.env.settings (merge s.specific (merge s.general (.table []))))

/-- That is the tree that settings are read from. -/
theorem tree_eq : tree s.env s.files = .ok s.merged.entries := by
  have hlayers : (layerNames (s.env ++ s.added)).mapM (layerOf s.files) =
      .ok [s.general, s.specific] := by
    rw [layerNames, added, Environment.get?_append_besides, List.mapM_cons, List.mapM_cons,
      s.reads_general, s.reads_specific]
    rfl
  have hsettings : merge (s.env ++ s.added).settings (merge s.specific
      (merge s.general (.table []))) = s.merged := by
    rw [Environment.settings_append, merge, List.foldl_append]
    rfl
  rw [tree, s.fullEnvironment_eq, hlayers]
  exact congrArg (fun root => Except.ok root.entries) hsettings

/-- The variables of the process give groups as tables. -/
theorem grouped_env : Layer.Grouped s.env.settings :=
  s.grouped _ (by simp)

/-- So do those of the file. -/
theorem grouped_dotenv : Layer.Grouped s.dotenv.settings :=
  s.grouped _ (by simp)

/-- The file gives what is added. -/
theorem settings_added_subset : s.added.settings ⊆ s.dotenv.settings :=
  List.filterMap_subset _ (List.filter_subset_self _)

/-- So what is added gives groups as tables. -/
theorem grouped_added : Layer.Grouped s.added.settings :=
  fun g hg => (s.grouped_dotenv g hg).mono s.settings_added_subset (List.Subset.refl [])

/-- The files of settings, merged. -/
def filed : Node :=
  merge s.specific (merge s.general (.table []))

variable {s} {g : String × List String} {name : String}

/-- What the process gives to a setting is not given to it by added variables. -/
theorem setting?_ne_of_mem_added (hg : g ∈ groups) (hname : name ∈ g.2)
    (hgiven : (Layer.value? s.env.settings g.1 name).isSome) :
    ∀ v ∈ s.added, Environment.setting? v.1 ≠ some (g.1, name) := by
  intro v' hv' hsets'
  obtain ⟨v, hv, hsets⟩ := (Environment.isSome_value?_settings (s.grouped_env g hg)).1 hgiven
  obtain ⟨hdotenv, hnew⟩ := List.mem_filter.1 hv'
  have hsame := s.spelled g hg name hname v hv v' hdotenv hsets hsets'
  have hset : (s.env.get? v'.1).isSome := Environment.isSome_get?_iff.2 ⟨v, hv, hsame⟩
  rw [Option.isNone_iff_eq_none.1 hnew] at hset
  cases hset

/-- What the process does not give is given by the added variables as it is by all of the file. -/
theorem value?_added (hg : g ∈ groups) (hnot : Layer.value? s.env.settings g.1 name = none) :
    Layer.value? s.added.settings g.1 name = Layer.value? s.dotenv.settings g.1 name := by
  refine Environment.value?_settings_filter (s.grouped_dotenv g hg) fun v hv hsets => ?_
  rw [Option.isNone_iff_eq_none, ← Option.not_isSome_iff_eq_none]
  intro hset
  obtain ⟨u, hu, hsame⟩ := Environment.isSome_get?_iff.1 hset
  have hsome := (Environment.isSome_value?_settings (s.grouped_env g hg)).2
    ⟨u, hu, by rw [hsame]; exact hsets⟩
  rw [hnot] at hsome
  cases hsome

/-- In the files, a setting has the value of the one of the environment, or else of the defaults. -/
theorem at?_filed (hg : g ∈ groups) (hname : name ∈ g.2) : s.filed.at? g.1 name =
    (s.specific.value? g.1 name).or (s.general.value? g.1 name) := by
  have hspecific : Layer.Grouped s.specific := s.grouped _ (by simp)
  have hcovers : Layer.Covers s.specific s.general := by
    have hall := s.covers
    simp only [List.pairwise_cons, List.forall_mem_cons] at hall
    exact hall.2.2.1.1
  exact (hspecific g hg).at?_merge (hcovers g hg name hname)

/-- What lies below variables is covered by them. -/
theorem replaces_or_at?_filed (hg : g ∈ groups) (hname : name ∈ g.2) {layer : Layer}
    (hspecific : layer.Covers s.specific) (hgeneral : layer.Covers s.general) :
    layer.Replaces g.1 name ∨ s.filed.at? g.1 name = none := by
  rcases hspecific g hg name hname with hreplaces | hnone
  · exact .inl hreplaces
  · rcases hgeneral g hg name hname with hreplaces | hnone'
    · exact .inl hreplaces
    · rw [at?_filed hg hname, hnone, hnone']
      exact .inr rfl

/-- The same for groups. -/
theorem has_added (s : Sources) (group : String) :
    (Layer.has s.added.settings group || Layer.has s.env.settings group) =
      (Layer.has s.env.settings group || Layer.has s.dotenv.settings group) := by
  rw [Bool.eq_iff_iff, Bool.or_eq_true, Bool.or_eq_true, Environment.has_settings,
    Environment.has_settings, Environment.has_settings]
  constructor
  · rintro (⟨v, hv, hsets⟩ | henv)
    · exact .inr ⟨v, (List.mem_filter.1 hv).1, hsets⟩
    · exact .inl henv
  · rintro (henv | ⟨v, hv, hsets⟩)
    · exact .inr henv
    · cases hget : s.env.get? v.1 with
      | none => exact .inl ⟨v, List.mem_filter.2 ⟨hv, by rw [hget]; rfl⟩, hsets⟩
      | some value =>
        have hset : (s.env.get? v.1).isSome := by
          rw [hget]
          rfl
        obtain ⟨u, hu, hsame⟩ := Environment.isSome_get?_iff.1 hset
        exact .inr ⟨u, hu, by rw [hsame]; exact hsets⟩

/-- In the tree, a setting has the value of the first layer that gives one. -/
theorem at?_merged (hg : g ∈ groups) (hname : name ∈ g.2) :
    s.merged.at? g.1 name = s.layers.findSome? (·.value? g.1 name) := by
  have hcovers := s.covers
  simp only [List.pairwise_cons, List.forall_mem_cons] at hcovers
  obtain ⟨⟨-, henvSpecific, henvGeneral, -⟩, ⟨hspecific, hgeneral, -⟩, -⟩ := hcovers
  have hlayers : s.layers.findSome? (·.value? g.1 name) =
      (Layer.value? s.env.settings g.1 name).or
        ((Layer.value? s.dotenv.settings g.1 name).or (s.filed.at? g.1 name)) := by
    rw [at?_filed hg hname, layers, List.findSome?_cons, List.findSome?_cons, List.findSome?_cons,
      List.findSome?_cons]
    cases Layer.value? s.env.settings g.1 name <;> cases Layer.value? s.dotenv.settings g.1 name <;>
      cases s.specific.value? g.1 name <;> cases s.general.value? g.1 name <;> rfl
  have hmerged : s.merged = merge s.added.settings (merge s.env.settings s.filed) := rfl
  rw [hmerged, hlayers]
  cases hgiven : Layer.value? s.env.settings g.1 name with
  | some v =>
    have hadded := setting?_ne_of_mem_added hg hname (by rw [hgiven]; rfl)
    rw [Node.at?, Environment.under?_merge_settings (s.grouped_added g hg) hadded, ← Node.at?,
      (s.grouped_env g hg).at?_merge (replaces_or_at?_filed hg hname henvSpecific henvGeneral),
      hgiven]
    rfl
  | none =>
    have hnone : ∀ v ∈ s.env, Environment.setting? v.1 ≠ some (g.1, name) := by
      intro v hv hsets
      have hsome := (Environment.isSome_value?_settings (s.grouped_env g hg)).2 ⟨v, hv, hsets⟩
      rw [hgiven] at hsome
      cases hsome
    have hkept : (merge s.env.settings s.filed).at? g.1 name = s.filed.at? g.1 name :=
      congrArg (Option.map Node.bare)
        (Environment.under?_merge_settings (s.grouped_env g hg) hnone s.filed)
    have hcovered : Layer.Replaces s.added.settings g.1 name ∨
        (merge s.env.settings s.filed).at? g.1 name = none := by
      rw [hkept]
      exact (replaces_or_at?_filed hg hname hspecific hgeneral).imp_left fun h =>
        h.mono s.settings_added_subset (List.Subset.refl [name])
    rw [(s.grouped_added g hg).at?_merge hcovered, hkept, value?_added hg hgiven, Option.none_or]

/-- A group is in the tree if a layer gives it. -/
theorem isSome_lookup?_merged (s : Sources) (group : String) :
    (Node.lookup? group s.merged.entries).isSome = s.layers.any (·.has group) := by
  rw [merged, Layer.isSome_lookup?_merge, Layer.isSome_lookup?_merge, Layer.isSome_lookup?_merge,
    Layer.isSome_lookup?_merge, ← Bool.or_assoc, has_added, layers, List.any_cons, List.any_cons,
    List.any_cons, List.any_cons, Bool.or_assoc]
  rfl

/-- Groups are tables in the tree. -/
theorem grouped_merged (s : Sources) : s.merged.Grouped := by
  have hspecific : Layer.Grouped s.specific := s.grouped _ (by simp)
  have hgeneral : Layer.Grouped s.general := s.grouped _ (by simp)
  exact s.grouped_added.grouped_merge (s.grouped_env.grouped_merge
    (hspecific.grouped_merge (hgeneral.grouped_merge Node.grouped_empty)))

/-- The tree says about settings what the first layers say that give them. -/
theorem sameGroups_combined (s : Sources) : SameGroups s.merged.entries (combined s.layers) := by
  intro g hg
  have hcombined : Node.lookup? g.1 (combined s.layers) = combinedGroup s.layers g :=
    Node.lookup?_filterMap _ _ nodup_groups hg
  have hgroup := s.isSome_lookup?_merged g.1
  rw [hcombined, combinedGroup]
  cases hmerged : Node.lookup? g.1 s.merged.entries with
  | none =>
    rw [hmerged] at hgroup
    rw [if_neg (by rw [← hgroup]; exact Bool.false_ne_true)]
    exact .inl ⟨rfl, rfl⟩
  | some n =>
    obtain ⟨es, rfl⟩ := s.grouped_merged g hg n hmerged
    rw [hmerged] at hgroup
    have hany : s.layers.any (·.has g.1) = true := hgroup.symm
    rw [if_pos hany]
    refine .inr ⟨es, _, rfl, rfl, fun name hname => ?_⟩
    have hvalue : (Node.lookup? name es).map Node.bare =
        s.layers.findSome? (·.value? g.1 name) := by
      rw [← at?_merged hg hname, Node.at?, Node.under?, hmerged]
      rfl
    have hfound := Node.lookup?_filterMap id (fun name => s.layers.findSome? (·.value? g.1 name))
      (nodup_names g hg) hname
    rw [hvalue]
    refine Eq.trans ?_ (congrArg (Option.map Node.bare) hfound.symm)
    cases hdecided : s.layers.findSome? (·.value? g.1 name) with
    | none => rfl
    | some v =>
      obtain ⟨layer, -, hgives⟩ := List.exists_of_findSome?_eq_some hdecided
      exact congrArg some (Layer.bare_of_value? hgives).symm

/-- Settings are read as if a single layer gave each of them what the first layer gives it. -/
theorem load_eq (s : Sources) : load s.env s.files = read (combined s.layers) := by
  rw [load, s.tree_eq]
  exact read_congr s.sameGroups_combined

end Sources

/-! ## What is masked -/

/-- Whether layers differ in one of them only, and there in what is given to a setting that an
earlier layer gives as well. -/
inductive Masked : List Layer → List Layer → Prop
  | intro {above below : List Layer} {layer layer' : Layer} {group name : String}
    (masked : ∃ higher ∈ above, (higher.value? group name).isSome)
    (same_groups : ∀ g ∈ groups, layer.has g.1 = layer'.has g.1)
    (same_settings : ∀ g ∈ groups, ∀ n ∈ g.2, (g.1, n) ≠ (group, name) →
      layer.value? g.1 n = layer'.value? g.1 n) :
    Masked (above ++ layer :: below) (above ++ layer' :: below)

/-- Such layers say the same together. -/
theorem Masked.combined_eq {layers layers' : List Layer} (h : Masked layers layers') :
    combined layers = combined layers' := by
  obtain @⟨above, below, layer, layer', group, name, ⟨higher, hhigher, hgives⟩, hgroups,
    hsettings⟩ := h
  refine List.filterMap_congr fun g hg => congrArg (Option.map _) ?_
  have hany : (above ++ layer :: below).any (·.has g.1) =
      (above ++ layer' :: below).any (·.has g.1) := by
    rw [List.any_append, List.any_append, List.any_cons, List.any_cons, hgroups g hg]
  have hvalues : ∀ n ∈ g.2, (above ++ layer :: below).findSome? (·.value? g.1 n) =
      (above ++ layer' :: below).findSome? (·.value? g.1 n) := by
    intro n hn
    rw [List.findSome?_append, List.findSome?_append]
    by_cases hsame : (g.1, n) = (group, name)
    · obtain ⟨rfl, rfl⟩ := Prod.mk.inj hsame
      have habove : (above.findSome? (·.value? g.1 n)).isSome :=
        List.findSome?_isSome_iff.2 ⟨higher, hhigher, hgives⟩
      rw [Option.or_of_isSome habove, Option.or_of_isSome habove]
    · rw [List.findSome?_cons, List.findSome?_cons, hsettings g hg n hn hsame]
  have hentries : (g.2.filterMap fun n =>
        ((above ++ layer :: below).findSome? (·.value? g.1 n)).map (n, ·)) =
      g.2.filterMap fun n =>
        ((above ++ layer' :: below).findSome? (·.value? g.1 n)).map (n, ·) :=
    List.filterMap_congr fun n hn => congrArg (Option.map _) (hvalues n hn)
  rw [combinedGroup, combinedGroup, hany, hentries]

/-! ## A deployment -/

/-- Files of a deployment, with variables in one of them. -/
def deployed (dotenv : String) : Files :=
  [(".env", dotenv), ("config/production.toml", "[redis]\nprefix = \"p\"\n"),
    ("config/default.toml", "[server]\n[database]\nurl = \"a\"\n")]

/-- What its variables and its files give, with no setting given as a table. -/
theorem plain_deployment (port : String) :
    ∀ layer ∈ [Environment.settings [("AGORA__SERVER__PORT", "4000")],
      Environment.settings [("AGORA_ENV", "production"), ("AGORA__SERVER__PORT", port)],
      [("redis", .table [("prefix", .text "p")])],
      [("server", .table []), ("database", .table [("url", .text "a")])]], Layer.Plain layer := by
  have henv : Environment.settingName? "AGORA_ENV" = none := by decide +kernel
  have hport : Environment.settingName? "AGORA__SERVER__PORT" = some "server.port" := by
    decide +kernel
  have hpath : pathOf "server.port" = .child (.name "server") "port" := by decide +kernel
  have hnames : ∀ name ∈ ["AGORA_ENV", "AGORA__SERVER__PORT"],
      ∀ key ∈ Environment.settingName? name, ∃ s s', pathOf key = .child (.name s) s' := by
    simp [henv, hport, hpath]
  have hgroups : ∀ name ∈ ["redis", "server", "database"], pathOf name = .name name := by
    decide +kernel
  have htext : ∀ t, ¬ (Node.text t).IsTable := fun t ⟨_, h⟩ => nomatch h
  simp only [List.forall_mem_cons]
  refine ⟨Environment.plain_settings ?_, Environment.plain_settings ?_,
    Layer.plain_of_groups ?_, Layer.plain_of_groups ?_, nofun⟩
  · simpa using hnames _ (by simp)
  · simpa using hnames
  · simpa [htext] using ⟨_, hgroups "redis" (by simp)⟩
  · simpa [htext] using
      And.intro ⟨_, hgroups "server" (by simp)⟩ ⟨_, hgroups "database" (by simp)⟩

/-- A process with a port of its own. The file of variables chooses the environment and gives
another port. -/
def deployment (dotenv port : String) (h : EnvFile.WellFormed dotenv ∧
    EnvFile.load dotenv [] = [("AGORA_ENV", "production"), ("AGORA__SERVER__PORT", port)]) :
    Sources where
  env := [("AGORA__SERVER__PORT", "4000")]
  files := deployed dotenv
  dotenv := [("AGORA_ENV", "production"), ("AGORA__SERVER__PORT", port)]
  specific := [("redis", .table [("prefix", .text "p")])]
  general := [("server", .table []), ("database", .table [("url", .text "a")])]
  sets_dotenv := h
  reads_specific := by
    change layerOf (deployed dotenv) "config/production" = _
    cbv
  reads_general := by cbv
  grouped layer hlayer := (plain_deployment port layer hlayer).grouped
  covers := List.pairwise_iff_forall_sublist.2 fun hpair =>
    (plain_deployment port _ (hpair.subset List.mem_cons_self)).covers _
  spelled := by
    have hnone : Environment.setting? "AGORA_ENV" = none := by decide +kernel
    intro g hg name hname v hv v' hv' hsets hsets'
    simp only [List.mem_cons, List.not_mem_nil, or_false] at hv hv'
    rcases hv' with rfl | rfl
    · rw [hnone] at hsets'
      cases hsets'
    · rw [hv]

/-- Two deployments with different ports in the file of variables differ only in what the process
masks. -/
theorem masked_deployment {dotenv port dotenv' port' : String} (h h') :
    Masked (deployment dotenv port h).layers (deployment dotenv' port' h').layers := by
  have hfirst : Environment.setting? "AGORA_ENV" = none := by decide +kernel
  have hsecond : Environment.setting? "AGORA__SERVER__PORT" = some ("server", "port") := by
    decide +kernel
  have hserver : ("server", ["host", "port"]) ∈ groups := by decide
  have hmasked : (Layer.value? (deployment dotenv port h).env.settings "server" "port").isSome :=
    (Environment.isSome_value?_settings ((deployment dotenv port h).grouped_env _ hserver)).2
      ⟨_, List.mem_singleton_self _, hsecond⟩
  -- Which groups and settings the variables give does not depend on the port.
  have hgroups : ∀ port group, Layer.has (Environment.settings [("AGORA_ENV", "production"),
      ("AGORA__SERVER__PORT", port)]) group ↔ Environment.group? "AGORA_ENV" = some group ∨
        Environment.group? "AGORA__SERVER__PORT" = some group := by
    intro port group
    simp [Environment.has_settings]
  have hothers : ∀ s : Sources, ∀ port, s.dotenv = [("AGORA_ENV", "production"),
      ("AGORA__SERVER__PORT", port)] → ∀ g ∈ groups, ∀ n ∈ g.2, (g.1, n) ≠ ("server", "port") →
        Layer.value? s.dotenv.settings g.1 n = none := by
    intro s port hdotenv g hg n hn hne
    rw [← Option.not_isSome_iff_eq_none,
      Environment.isSome_value?_settings (s.grouped_dotenv g hg), hdotenv]
    simp [hfirst, hsecond, hne.symm]
  change Masked ([_] ++ _ :: [_, _]) ([_] ++ _ :: [_, _])
  refine Masked.intro ⟨_, List.mem_singleton_self _, hmasked⟩
    (fun g _ => Bool.eq_iff_iff.2 ((hgroups port g.1).trans (hgroups port' g.1).symm))
    fun g hg n hn hne => ?_
  exact (hothers _ port rfl g hg n hn hne).trans (hothers _ port' rfl g hg n hn hne).symm

/-- A file that selects the environment and gives a port sets these two variables. -/
theorem sets_of_lines {dotenv port : String} {line : List Char}
    (hlines : EnvFile.lines dotenv = [some "AGORA_ENV=production".toList, some line])
    (hport : EnvFile.Fixed line (some ("AGORA__SERVER__PORT", port))) :
    EnvFile.WellFormed dotenv ∧
      EnvFile.load dotenv [] = [("AGORA_ENV", "production"), ("AGORA__SERVER__PORT", port)] := by
  have henv : EnvFile.Fixed "AGORA_ENV=production".toList (some ("AGORA_ENV", "production")) := by
    intro env
    cbv
  constructor
  · rw [EnvFile.WellFormed, hlines]
    simp only [List.forall_mem_cons]
    exact ⟨⟨_, _, rfl, henv⟩, ⟨_, _, rfl, hport⟩, List.forall_mem_nil _⟩
  · change EnvFile.loadLines (EnvFile.lines dotenv) [] = _
    rw [hlines, EnvFile.loadLines, henv]
    dsimp only
    rw [EnvFile.loadLines, hport]
    rfl

/-! ## All layers -/

/-- **The first layer that gives a setting decides it.** Settings are read as from a single layer
with what the first of the variables of the process, those of the file, the file of the environment
and the file of defaults gives to each of them, and a setting that none of them gives has its usual
value. So two sources that differ only in what one layer gives to a setting that an earlier one
gives as well lead to the same settings, or to the same problem. -/
theorem first_layer_decides [Formats] (s : Sources) :
    load s.env s.files = read (combined s.layers) ∧
    ∀ s' : Sources, Masked s.layers s'.layers → load s.env s.files = load s'.env s'.files :=
  ⟨s.load_eq, fun s' h => by rw [s.load_eq, s'.load_eq, h.combined_eq]⟩

/-- A port that cannot even be read is masked by the one of the process. The file of variables
still selects the environment. -/
theorem first_layer_decides_of_port :
    let env := [("AGORA__SERVER__PORT", "4000")]
    let unreadable := deployed "AGORA_ENV=production\nAGORA__SERVER__PORT=none\n"
    let other := deployed "AGORA_ENV=production\nAGORA__SERVER__PORT=5000\n"
    load env unreadable = load env other ∧ (load env other).toOption.map (fun settings =>
      (settings.server.port, settings.redis.keyspace)) = some (4000, "p") := by
  have hnone : EnvFile.Fixed "AGORA__SERVER__PORT=none".toList
      (some ("AGORA__SERVER__PORT", "none")) := by
    intro env
    cbv
  have hport : EnvFile.Fixed "AGORA__SERVER__PORT=5000".toList
      (some ("AGORA__SERVER__PORT", "5000")) := by
    intro env
    cbv
  have hunreadable : EnvFile.lines "AGORA_ENV=production\nAGORA__SERVER__PORT=none\n" =
      [some "AGORA_ENV=production".toList, some "AGORA__SERVER__PORT=none".toList] := by
    decide +kernel
  have hother : EnvFile.lines "AGORA_ENV=production\nAGORA__SERVER__PORT=5000\n" =
      [some "AGORA_ENV=production".toList, some "AGORA__SERVER__PORT=5000".toList] := by
    decide +kernel
  have hload := (first_layer_decides _).2 _
    (masked_deployment (sets_of_lines hunreadable hnone) (sets_of_lines hother hport))
  exact ⟨hload, by decide +kernel⟩

/-- The port when the process sets it, beside a file of variables. -/
def portBeside (dotenv : String) : Option Nat :=
  (load [("AGORA__SERVER__PORT", "4000")]
    [(".env", dotenv), ("config/default.toml", "[server]\n[database]\nurl = \"a\"\n")]).toOption.map
      (·.server.port)

/-- The backend when two files give it, the second one for the environment. -/
def backendOver (defaults specific : String) : Option Backend :=
  (load [] [("config/default.toml", "[server]\n[database]\nurl = \"a\"\n" ++ defaults),
    ("config/development.toml", specific)]).toOption.map (·.engagement.backend)

/-- The first layer does not decide when a variable of the file spells a setting of the process in
another way, nor when two layers give a setting as a table. The port is the one of the file. The
tables are merged, and two backends at once are none. -/
theorem first_layer_overruled :
    Environment.setting? "AGORA__SERVER.PORT" = Environment.setting? "AGORA__SERVER__PORT" ∧
      portBeside "AGORA__SERVER.PORT=5000\n" = some 5000 ∧
      backendOver "" "[engagement.backend]\nredis = true\n" = some .redis ∧
      backendOver "[engagement.backend]\nmemory = true\n" "[engagement.backend]\nredis = true\n" =
        none := by
  decide +kernel

end Forum.Settings
