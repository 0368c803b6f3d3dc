import Mathlib
import Forum.Settings.Node

/-!
# Setting values in trees

What is found under a name in a tree after a value was set under a name or at a path. A value that
is no table takes the place of what was there, whatever it was, and a table is merged into it name
by name. What is set at a path changes the tree under the first name of the path only, and there in
a way that its other steps decide.
-/

namespace Forum.Settings

namespace Node

/-- Whether a node is a table. -/
def IsTable (n : Node) : Prop :=
  ∃ es, n = table es

variable {other : String}

/-- The value of a name is that of the first entry that has it. -/
theorem lookup?_cons (name other : String) (v : Node) (es : List (String × Node)) :
    lookup? other ((name, v) :: es) = if other = name then some v else lookup? other es := by
  by_cases h : other = name
  · simp [lookup?, h]
  · simp [lookup?, h, Ne.symm h]

/-- Altering the value of a name leaves the other ones as they are. -/
theorem lookup?_alter (name : String) (f : Node → Node) (es : List (String × Node))
    (other : String) : lookup? other (alter name f es) =
      if other = name then some (f ((lookup? name es).getD nothing)) else lookup? other es := by
  induction es with
  | nil => rw [alter, lookup?_cons]; rfl
  | cons e es ih =>
    obtain ⟨n, v⟩ := e
    rw [alter, lookup?_cons]
    by_cases hn : n = name
    · rw [if_pos hn, lookup?_cons, lookup?_cons, hn, if_pos rfl, Option.getD_some]
      split <;> rfl
    · rw [if_neg hn, lookup?_cons, lookup?_cons, if_neg (Ne.symm hn), ih]
      by_cases hother : other = name
      · rw [if_pos hother, if_pos hother, if_neg (hother ▸ Ne.symm hn)]
      · rw [if_neg hother, if_neg hother]

/-- What a value is set in becomes a table. -/
theorem isTable_set (name : String) (v into : Node) : (set name v into).IsTable := by
  cases v <;> exact ⟨_, rfl⟩

/-- Setting the value of a name leaves the other ones as they are. -/
theorem lookup?_set_of_ne {name : String} (h : other ≠ LetterCase.lower name) (v into : Node) :
    lookup? other (set name v into).entries = lookup? other into.entries := by
  cases v <;> exact (lookup?_alter _ _ _ _).trans (if_neg h)

/-- A value that is no table takes the place of the one that was there. -/
theorem lookup?_set_of_not_table {v : Node} (h : ¬ v.IsTable) (name : String) (into : Node) :
    lookup? (LetterCase.lower name) (set name v into).entries = some v := by
  cases v with
  | table es => exact absurd ⟨es, rfl⟩ h
  | nothing | boolean | integer | float | text | list =>
    exact (lookup?_alter _ _ _ _).trans (if_pos rfl)

/-- A table is merged into the one that was there. -/
theorem lookup?_set_table (name : String) (es : List (String × Node)) (into : Node) :
    lookup? (LetterCase.lower name) (set name (table es) into).entries =
      some (setAll es (into.subtable (LetterCase.lower name))) :=
  (lookup?_alter _ _ _ _).trans (if_pos rfl)

/-- What several names are set in stays a table. -/
theorem isTable_setAll {into : Node} (h : into.IsTable) (es : List (String × Node)) :
    (setAll es into).IsTable := by
  induction es generalizing into with
  | nil => exact h
  | cons e es ih => exact ih (isTable_set e.1 e.2 into)

/-- What a value is set in matters to a name only by what it has under that name. -/
theorem lookup?_set_congr {into into' : Node}
    (h : lookup? other into.entries = lookup? other into'.entries) (name : String) (v : Node) :
    lookup? other (set name v into).entries = lookup? other (set name v into').entries := by
  by_cases hname : other = LetterCase.lower name
  · subst hname
    cases v with
    | table es => rw [lookup?_set_table, lookup?_set_table, subtable, subtable, h]
    | nothing | boolean | integer | float | text | list =>
      exact (lookup?_set_of_not_table (fun ⟨_, h⟩ => nomatch h) name into).trans
        (lookup?_set_of_not_table (fun ⟨_, h⟩ => nomatch h) name into').symm
  · rw [lookup?_set_of_ne hname, lookup?_set_of_ne hname, h]

/-- The same goes for what several names are set in. -/
theorem lookup?_setAll_congr {into into' : Node}
    (h : lookup? other into.entries = lookup? other into'.entries) (es : List (String × Node)) :
    lookup? other (setAll es into).entries = lookup? other (setAll es into').entries := by
  induction es generalizing into into' with
  | nil => exact h
  | cons e es ih => exact ih (lookup?_set_congr h e.1 e.2)

/-- When several names are set, one that is given no table has the value that it is given last, and
the one from before if it is given none. -/
theorem lookup?_setAll {es : List (String × Node)}
    (h : ∀ e ∈ es, LetterCase.lower e.1 = other → ¬ e.2.IsTable) (into : Node) :
    lookup? other (setAll es into).entries =
      (lookup? other (setAll es (table [])).entries).or (lookup? other into.entries) := by
  induction es generalizing into with
  | nil => rfl
  | cons e es ih =>
    obtain ⟨name, v⟩ := e
    have hrest := ih fun e he => h e (List.mem_cons_of_mem _ he)
    have hfirst : ∀ into, lookup? other (set name v into).entries =
        (lookup? other (set name v (table [])).entries).or (lookup? other into.entries) := by
      intro into
      by_cases hname : other = LetterCase.lower name
      · have hv := h _ List.mem_cons_self hname.symm
        rw [hname, lookup?_set_of_not_table hv, lookup?_set_of_not_table hv]
        rfl
      · rw [lookup?_set_of_ne hname, lookup?_set_of_ne hname]
        rfl
    rw [setAll, setAll, hrest, hrest (set name v (table [])), hfirst into, Option.or_assoc]

end Node

/-- A step of a path below its first name. -/
inductive Step where
  | name (s : String)
  | place (n : Int)

namespace Path

/-- The name that a path begins with. -/
def base : Path → String
  | name s => s
  | child p _ => p.base
  | item p _ => p.base

/-- The steps below it. -/
def steps : Path → List Step
  | name _ => []
  | child p s => p.steps ++ [.name s]
  | item p n => p.steps ++ [.place n]

/-- What becomes of a node when it is changed below some steps. -/
def reach (f : Node → Node) : List Step → Node → Node
  | [], v => f v
  | .name s :: rest, v => .table (Node.alter (LetterCase.lower s) (reach f rest) v.entries)
  | .place n :: rest, v =>
    .list (alterItem (fromStart n v.items.length) (reach f rest) v.items)

/-- The last step is taken first of all. -/
theorem reach_append (f : Node → Node) (steps more : List Step) :
    reach f (steps ++ more) = reach (reach f more) steps := by
  induction steps with
  | nil => rfl
  | cons step steps ih =>
    funext v
    cases step <;> rw [List.cons_append, reach, reach, ih]

/-- Changing what is at a path changes what is under its first name. -/
theorem modify_eq (f : Node → Node) (p : Path) (root : Node) : p.modify f root =
    .table (Node.alter (LetterCase.lower p.base) (reach f p.steps) root.entries) := by
  induction p generalizing f with
  | name s => rfl
  | child p s ih => rw [modify, ih, base, steps, reach_append]; rfl
  | item p n ih => rw [modify, ih, base, steps, reach_append]; rfl

/-- What becomes of a node when a value is set below some steps. -/
def write (value : Node) : List Step → Node → Node
  | [], _ => value
  | [.name s], v => Node.set s value v
  | step :: rest, v => reach (write value rest) [step] v

/-- All steps but the last one only lead to where the value is set. -/
theorem write_append (value : Node) (steps : List Step) (last : Step) :
    write value (steps ++ [last]) = reach (write value [last]) steps := by
  induction steps with
  | nil => rfl
  | cons step steps ih =>
    -- There is a second step, so the value is not set below the first one.
    obtain ⟨next, rest, hnext⟩ : ∃ next rest, steps ++ [last] = next :: rest :=
      List.exists_cons_of_ne_nil (List.append_ne_nil_of_right_ne_nil _ (List.cons_ne_nil _ _))
    rw [hnext] at ih
    funext v
    rw [List.cons_append, hnext]
    cases step with
    | name s => exact congrArg (fun f => reach f [.name s] v) ih
    | place n => exact congrArg (fun f => reach f [.place n] v) ih

/-- What is under the first name of a path after a value was set at the path. A table at a path
without steps is merged into what was there. -/
def put (value : Node) (steps : List Step) (old : Option Node) : Node :=
  match steps, value with
  | [], .table es => Node.setAll es (old.getD (.table []))
  | steps, value => write value steps (old.getD .nothing)

/-- A first step by name, with another one behind it, leads to what is under the name. -/
theorem put_name_step (value : Node) (s : String) (step : Step) (rest : List Step)
    (old : Option Node) : put value (.name s :: step :: rest) old =
      .table (Node.alter (LetterCase.lower s) (write value (step :: rest))
        (old.getD .nothing).entries) := by
  cases value <;> rfl

/-- Setting a value below the last step changes what is under the first name. -/
theorem lookup?_modify_write (value : Node) (p : Path) (last : Step) (root : Node)
    (name : String) :
    Node.lookup? name (p.modify (write value [last]) root).entries =
      if name = LetterCase.lower p.base then
        some (put value (p.steps ++ [last]) (Node.lookup? (LetterCase.lower p.base) root.entries))
      else Node.lookup? name root.entries := by
  obtain ⟨next, rest, hnext⟩ : ∃ next rest, p.steps ++ [last] = next :: rest :=
    List.exists_cons_of_ne_nil (List.append_ne_nil_of_right_ne_nil _ (List.cons_ne_nil _ _))
  have hput : ∀ old, put value (p.steps ++ [last]) old =
      reach (write value [last]) p.steps (old.getD .nothing) := by
    intro old
    rw [← write_append, hnext]
    cases value <;> rfl
  rw [hput, modify_eq]
  exact Node.lookup?_alter _ _ _ _

/-- Setting a value at a path changes what is under its first name. -/
theorem lookup?_set (value : Node) (p : Path) (root : Node) (name : String) :
    Node.lookup? name (p.set value root).entries =
      if name = LetterCase.lower p.base then
        some (put value p.steps (Node.lookup? (LetterCase.lower p.base) root.entries))
      else Node.lookup? name root.entries := by
  cases p with
  | name s =>
    rw [base]
    by_cases hname : name = LetterCase.lower s
    · rw [if_pos hname, hname]
      cases value with
      | table es => exact Node.lookup?_set_table s es root
      | nothing | boolean | integer | float | text | list =>
        exact Node.lookup?_set_of_not_table (fun ⟨_, h⟩ => nomatch h) s root
    · rw [if_neg hname]
      exact Node.lookup?_set_of_ne hname value root
  | child p s => exact lookup?_modify_write value p (.name s) root name
  | item p n => exact lookup?_modify_write value p (.place n) root name

end Path

end Forum.Settings
