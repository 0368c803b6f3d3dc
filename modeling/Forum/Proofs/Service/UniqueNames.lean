import Mathlib
import Forum.Identifier.Generator
import Forum.Proofs.Database.Tables
import Forum.Proofs.Service.Programs
import Forum.Proofs.Text.LetterCase
import Forum.Proofs.World.Services

/-!
# Names of users

Users are entered one after another, each under a name of their choice. `Entering` lists what one
call can do, and `Registry` is what the calls keep: the rows hold the names that were asked for with
success, and no two of them have the same letters. A name is looked up and stored in lower case, and
the full lower-case mapping takes some other letters to ASCII ones, so it matters that a name is
checked before it is looked up: of checked names the mapping is the one of the letters A to Z.
-/

namespace Forum.Accounts

/-! ## Well-formed names -/

/-- A well-formed name. -/
structure IsName (s : String) : Prop where
  /-- It has 1 to 128 characters. -/
  length : 1 ≤ s.length ∧ s.length ≤ 128
  /-- They are ASCII letters, digits and underscores. -/
  chars : ∀ c ∈ s.toList,
    'a' ≤ c ∧ c ≤ 'z' ∨ 'A' ≤ c ∧ c ≤ 'Z' ∨ '0' ≤ c ∧ c ≤ '9' ∨ c = '_'

/-- Whether two texts have the same letters, in whichever ASCII case. -/
def SameLetters (a b : String) : Prop :=
  LetterCase.lowerAscii a = LetterCase.lowerAscii b

theorem isNameChar_iff (c : Char) : isNameChar c = true ↔
    'a' ≤ c ∧ c ≤ 'z' ∨ 'A' ≤ c ∧ c ≤ 'Z' ∨ '0' ≤ c ∧ c ≤ '9' ∨ c = '_' := by
  simp only [isNameChar, Char.isAlphanum, Char.isAlpha, Char.isUpper, Char.isLower, Char.isDigit,
    Bool.or_eq_true, Bool.and_eq_true, decide_eq_true_eq, Char.le_def, ge_iff_le]
  tauto

theorem admits_usernameRule_iff (s : String) :
    usernameRule.admits s = true ↔ 1 ≤ s.length ∧ s.length ≤ 128 := by
  rw [LengthRule.admits, Bool.and_eq_true, decide_eq_true_eq, decide_eq_true_eq]
  rfl

/-- A well-formed name passes the checks. -/
theorem checkName_of_isName {s : String} (h : IsName s) : checkName s = .ok () := by
  have hlength : LengthRule.check (checks s) = .ok () := by
    have hadmits := (admits_usernameRule_iff s).2 h.length
    simp [LengthRule.check, LengthRule.broken, checks, hadmits]
  have hchars : s.toList.all isNameChar = true :=
    List.all_eq_true.2 fun c hc => (isNameChar_iff c).2 (h.chars c hc)
  rw [checkName, hlength, hchars]
  rfl

/-- Any other text is reported as one that is not acceptable. -/
theorem checkName_of_not_isName {s : String} (h : ¬ IsName s) :
    ∃ reason, checkName s = .error (.validation reason) := by
  by_cases hadmits : usernameRule.admits s = true
  · have hlength : LengthRule.check (checks s) = .ok () := by
      simp [LengthRule.check, LengthRule.broken, checks, hadmits]
    have hchars : s.toList.all isNameChar = false := by
      refine Bool.eq_false_iff.2 fun hall => h ⟨?_, fun c hc => ?_⟩
      · exact (admits_usernameRule_iff s).1 hadmits
      · exact (isNameChar_iff c).1 (List.all_eq_true.1 hall c hc)
    rw [checkName, hlength, hchars]
    exact ⟨_, rfl⟩
  · have hlength : LengthRule.check (checks s) = .error (LengthRule.fault [usernameRule]) := by
      simp [LengthRule.check, LengthRule.broken, checks, hadmits]
    rw [checkName, hlength]
    exact ⟨_, rfl⟩

theorem IsName.isAscii {s : String} (h : IsName s) : LetterCase.IsAscii s := by
  intro c hc
  have hchars := h.chars c hc
  simp only [Char.le_def, UInt32.le_iff_toNat_le] at hchars
  rcases hchars with ⟨-, hle⟩ | ⟨-, hle⟩ | ⟨-, hle⟩ | rfl
  · exact lt_of_le_of_lt hle (by decide)
  · exact lt_of_le_of_lt hle (by decide)
  · exact lt_of_le_of_lt hle (by decide)
  · decide

/-- Names with the letters of a well-formed one are the same in lower case. -/
theorem IsName.lower_eq {s t : String} (h : IsName s) (same : SameLetters t s) :
    LetterCase.lower t = LetterCase.lower s := by
  rw [h.isAscii.lower_eq, (h.isAscii.of_lowerAscii_eq same).lower_eq, same]

/-- Two well-formed names are the same in lower case if they have the same letters. -/
theorem IsName.lower_eq_iff {s t : String} (h : IsName s) (h' : IsName t) :
    LetterCase.lower t = LetterCase.lower s ↔ SameLetters t s := by
  rw [h.isAscii.lower_eq, h'.isAscii.lower_eq, SameLetters]

/-! ## One call -/

/-- What entering a user can answer and leave. -/
inductive Entering (w : World) (username : String) : Except Fault User → World → Prop
  /-- A name that is not well-formed is refused. -/
  | malformed (reason : String) (broken : ¬ IsName username) :
    Entering w username (.error (.validation reason)) w
  /-- So is one that a user has. -/
  | taken (reason : String) (user : User) (formed : IsName username) (found : user ∈ w.tables.users)
    (same : user.usernameLower = LetterCase.lower username) :
    Entering w username (.error (.conflict reason)) w
  /-- No identifier can be had. -/
  | failed (problem : Identifier.Error) (clock : Identifier.Clock) :
    Entering w username (.error (.identifier problem)) { w with clock := clock }
  /-- The database refuses the row, because a user has the token that was drawn for it. -/
  | refused (id : Int64) (g : Identifier.Generator) (clock : Identifier.Clock)
    (drawn : w.generator.Outcome (.ok id) g) :
    Entering w username (.error (Database.Failure.duplicateKey "user.token").fault)
      { w with generator := g, clock := clock }
  /-- The user is entered under a new identifier. -/
  | entered (id : Int64) (g : Identifier.Generator) (clock : Identifier.Clock)
    (formed : IsName username) (drawn : w.generator.Outcome (.ok id) g)
    (free : ∀ user ∈ w.tables.users, user.usernameLower ≠ LetterCase.lower username)
    (row : User)
    (new : row = ⟨id, username, LetterCase.lower username, w.tokens.draw id, w.now⟩) :
    Entering w username (.ok row) { w with
      tables := { w.tables with users := w.tables.users ++ [row] }
      generator := g
      clock := clock }

variable {w : World}

/-- A call does one of the five, if no user has an identifier that the generator may still issue. -/
theorem entering_create (sound : w.generator.Sound)
    (issued : ∀ user ∈ w.tables.users, user.id.toInt ≤ w.generator.floor) (username : String) :
    Entering w username (w.runService (create username)).1 (w.runService (create username)).2 := by
  by_cases formed : IsName username
  case neg =>
    obtain ⟨reason, hrefused⟩ := checkName_of_not_isName formed
    rw [World.runService, World.run, create_run_of_broken hrefused]
    exact .malformed reason formed
  have hlooked : World.answer (.rows (.findUser (.byName (LetterCase.lower username)))) w =
      (.ok (w.tables.users.find? (Database.UserKey.byName (LetterCase.lower username)).matches),
        w) := rfl
  rw [World.runService, World.run, create_run_of_checked (checkName_of_isName formed),
    Workflow.run_ask, hlooked]
  dsimp only
  cases hfind : w.tables.users.find?
    (Database.UserKey.byName (LetterCase.lower username)).matches with
  | some user =>
    have hsame := List.find?_some hfind
    exact .taken _ user formed (List.mem_of_find?_eq_some hfind) (of_decide_eq_true hsame)
  | none =>
    have free : ∀ user ∈ w.tables.users, user.usernameLower ≠ LetterCase.lower username :=
      fun user hmem hsame => List.find?_eq_none.1 hfind user hmem (decide_eq_true hsame)
    rw [afterFindName, Workflow.run_ask]
    rcases w.answer_freshId_cases with ⟨problem, clock, hfailed⟩ | ⟨id, g, clock, drawn, hissued⟩
    · rw [hfailed]
      exact .failed problem clock
    · have hnew : ∀ user ∈ w.tables.users, user.id ≠ id := by
        rintro user hmem rfl
        have hle := issued user hmem
        have hlt := (sound.floor_lt drawn).1
        omega
      rw [hissued, afterFreshId, Workflow.run_ask]
      let row : User := ⟨id, username, LetterCase.lower username, w.tokens.draw id, w.now⟩
      have hadd : w.tables.addUser row = _ ∨ w.tables.addUser row = _ :=
        w.tables.addUser_of_new hnew free
      dsimp only [World.answer, World.execute, Database.Tables.execute]
      rcases hadd with hrefused | hadded
      · rw [hrefused]
        exact .refused id g clock drawn
      · rw [hadded]
        exact .entered id g clock formed drawn free _ rfl

/-! ## Calls one after another -/

/-- A name that someone asks for, and when. -/
structure Application where
  /-- The time. -/
  now : Timestamp
  /-- The name. -/
  username : String

/-- A call that was made for a name. -/
structure Call where
  /-- The name. -/
  username : String
  /-- The world that the call has found. -/
  found : World
  /-- What was answered. -/
  answer : Except Fault User
  /-- The world that the call has left. -/
  left : World

/-- The call for a name. -/
def call (w : World) (a : Application) : Call :=
  let found := { w with now := a.now }
  let (answer, left) := found.runService (create a.username)
  ⟨a.username, found, answer, left⟩

/-- The calls for names that are asked for one after another. -/
def calls (w : World) : List Application → List Call
  | [] => []
  | a :: rest => call w a :: calls (call w a).left rest

/-- The world after all of them. -/
def after (w : World) (applications : List Application) : World :=
  applications.foldl (fun w a => (call w a).left) w

/-- What a call adds to the names of the users: the name, if the call has succeeded. -/
def gained (username : String) : Except Fault User → List String
  | .ok _ => [username]
  | .error _ => []

/-- The names that were asked for with success. -/
def names (made : List Call) : List String :=
  made.flatMap fun c => gained c.username c.answer

/-- What calls keep of a world: its users have the names that were asked for with success. -/
structure Registry (taken : List String) (w : World) : Prop where
  /-- The generator is sound. -/
  sound : w.generator.Sound
  /-- No user has an identifier that may still be issued. -/
  issued : ∀ user ∈ w.tables.users, user.id.toInt ≤ w.generator.floor
  /-- The names are kept as they were typed, in the order in which they were asked for. -/
  kept : w.tables.users.map (·.username) = taken
  /-- They are well-formed. -/
  formed : ∀ user ∈ w.tables.users, IsName user.username
  /-- They are also stored in lower case. -/
  lower : ∀ user ∈ w.tables.users, user.usernameLower = LetterCase.lower user.username
  /-- In lower case they are all different. -/
  apart : (w.tables.users.map (·.usernameLower)).Nodup

namespace Registry

variable {taken : List String}

/-- A table without users. -/
theorem start (sound : w.generator.Sound) (empty : w.tables.users = []) : Registry [] w := by
  constructor
  case sound => exact sound
  case kept => rw [empty, List.map_nil]
  case apart => rw [empty]; exact List.nodup_nil
  all_goals
    rw [empty]
    exact fun user hmem => absurd hmem List.not_mem_nil

/-- The time does not matter. -/
theorem at_time (h : Registry taken w) (now : Timestamp) : Registry taken { w with now := now } :=
  ⟨h.sound, h.issued, h.kept, h.formed, h.lower, h.apart⟩

/-- A well-formed name is taken if a user has it in lower case. -/
theorem taken_iff (h : Registry taken w) {username : String} (formed : IsName username) :
    (∃ user ∈ w.tables.users, user.usernameLower = LetterCase.lower username) ↔
      ∃ name ∈ taken, SameLetters name username := by
  have hsame : ∀ user ∈ w.tables.users, user.usernameLower = LetterCase.lower username ↔
      SameLetters user.username username := fun user hmem => by
    rw [h.lower user hmem, formed.lower_eq_iff (h.formed user hmem)]
  constructor
  · rintro ⟨user, hmem, heq⟩
    exact ⟨_, h.kept ▸ List.mem_map_of_mem hmem, (hsame user hmem).1 heq⟩
  · rintro ⟨name, hmem, heq⟩
    obtain ⟨user, huser, rfl⟩ := List.mem_map.1 (h.kept ▸ hmem)
    exact ⟨user, huser, (hsame user huser).2 heq⟩

/-- Every call keeps the registry, to which a successful one adds its name. -/
theorem step (h : Registry taken w) {username : String} {answer : Except Fault User} {w' : World}
    (did : Entering w username answer w') :
    Registry (taken ++ gained username answer) w' := by
  cases did with
  | malformed | taken =>
    rw [gained, List.append_nil]
    exact h
  | failed problem clock =>
    rw [gained, List.append_nil]
    exact ⟨h.sound, h.issued, h.kept, h.formed, h.lower, h.apart⟩
  | refused id g clock drawn =>
    obtain ⟨hlt, hfloor⟩ := h.sound.floor_lt drawn
    rw [gained, List.append_nil]
    exact ⟨h.sound.of_outcome drawn,
      fun user hmem => (h.issued user hmem).trans (hfloor ▸ hlt.le), h.kept, h.formed, h.lower,
      h.apart⟩
  | entered id g clock formed drawn free row new =>
    obtain ⟨hlt, hfloor⟩ := h.sound.floor_lt drawn
    have hforall : ∀ {P : User → Prop}, (∀ user ∈ w.tables.users, P user) → P row →
        ∀ user ∈ w.tables.users ++ [row], P user := fun hold hnew =>
      List.forall_mem_append.2 ⟨hold, List.forall_mem_singleton.2 hnew⟩
    subst new
    constructor
    case sound => exact h.sound.of_outcome drawn
    case issued =>
      exact hforall (fun user hmem => (h.issued user hmem).trans (hfloor ▸ hlt.le)) hfloor.ge
    case kept => rw [List.map_append, h.kept]; rfl
    case formed => exact hforall h.formed formed
    case lower => exact hforall h.lower rfl
    case apart =>
      rw [List.map_append]
      refine h.apart.append (List.nodup_singleton _) (List.disjoint_singleton.2 fun hmem => ?_)
      obtain ⟨user, huser, hsame⟩ := List.mem_map.1 hmem
      exact free user huser hsame

/-- A call finds the registry of the calls before it, and does one of the five. -/
theorem calls (h : Registry taken w) {applications : List Application} {earlier : List Call}
    {c : Call} {later : List Call} (split : calls w applications = earlier ++ c :: later) :
    Registry (taken ++ names earlier) c.found ∧ Entering c.found c.username c.answer c.left := by
  induction applications generalizing w taken earlier with
  | nil => cases earlier <;> cases split
  | cons a rest ih =>
    have hfound := h.at_time a.now
    have did := entering_create hfound.sound hfound.issued a.username
    cases earlier with
    | nil =>
      obtain ⟨rfl, -⟩ := List.cons.inj split
      rw [names, List.flatMap_nil, List.append_nil]
      exact ⟨hfound, did⟩
    | cons first earlier =>
      obtain ⟨rfl, hrest⟩ := List.cons.inj split
      rw [names, List.flatMap_cons, ← List.append_assoc]
      exact ih (hfound.step did) hrest

/-- All calls together leave the registry of their names. -/
theorem after (h : Registry taken w) (applications : List Application) :
    Registry (taken ++ names (Accounts.calls w applications)) (after w applications) := by
  induction applications generalizing w taken with
  | nil =>
    rw [Accounts.calls, names, List.flatMap_nil, List.append_nil]
    exact h
  | cons a rest ih =>
    have hfound := h.at_time a.now
    have did := entering_create hfound.sound hfound.issued a.username
    rw [Accounts.calls, names, List.flatMap_cons, ← List.append_assoc]
    exact ih (hfound.step did)

end Registry

/-! ## Unique names -/

/-- Whether a call gets what it asks for: an identifier can be had, and the database does not
fail. -/
structure Call.Served (c : Call) : Prop where
  /-- The generator issues an identifier. -/
  issued : ∀ problem, c.answer ≠ .error (.identifier problem)
  /-- The database executes the statements. -/
  executed : ∀ message, c.answer ≠ .error (.database message)

/-- What is settled by a call for a name, when some names are taken. -/
structure Call.Settled (taken : List String) (c : Call) : Prop where
  /-- It succeeds exactly for a well-formed name whose letters are not those of a taken one. -/
  succeeds_iff : (∃ user, c.answer = .ok user) ↔
    IsName c.username ∧ ∀ name ∈ taken, ¬ SameLetters name c.username
  /-- A name that is not well-formed is refused, and nothing changes. -/
  of_malformed : ¬ IsName c.username →
    (∃ reason, c.answer = .error (.validation reason)) ∧ c.left = c.found
  /-- A well-formed name that is taken competes with what is stored, and nothing changes. -/
  of_taken : IsName c.username → (∃ name ∈ taken, SameLetters name c.username) →
    (∃ reason, c.answer = .error (.conflict reason)) ∧ c.left = c.found
  /-- Success adds a user with the name as it was typed. -/
  of_success : ∀ user, c.answer = .ok user →
    user.username = c.username ∧ c.left.tables.users = c.found.tables.users ++ [user]

/-- Users who are told apart by their names. -/
structure ToldApart (w : World) : Prop where
  /-- No two of them have names with the same letters. -/
  distinct : w.tables.users.Pairwise fun a b => ¬ SameLetters a.username b.username
  /-- Each of them is found by their name in any mixture of capitals. -/
  found : ∀ user ∈ w.tables.users, ∀ name, SameLetters name user.username →
    w.runService (Records.findUserByName name) = (.ok (some user), w)

/-- A call that gets what it asks for is settled by the names in the registry. -/
theorem Registry.settled {taken : List String} {c : Call} (h : Registry taken c.found)
    (did : Entering c.found c.username c.answer c.left) (served : c.Served) : c.Settled taken := by
  obtain ⟨username, found, answer, left⟩ := c
  obtain ⟨hissued, hexecuted⟩ := served
  dsimp only at h did hissued hexecuted
  cases did with
  | malformed reason broken =>
    exact ⟨by simp [broken], fun _ => ⟨⟨reason, rfl⟩, rfl⟩, fun formed => absurd formed broken,
      fun _ hok => nomatch hok⟩
  | taken reason user formed hmem same =>
    have htaken := (h.taken_iff formed).1 ⟨user, hmem, same⟩
    refine ⟨?_, fun broken => absurd formed broken, fun _ _ => ⟨⟨reason, rfl⟩, rfl⟩,
      fun _ hok => nomatch hok⟩
    obtain ⟨name, hname, hsame⟩ := htaken
    exact ⟨fun ⟨_, hok⟩ => (nomatch hok), fun hfree => absurd hsame (hfree.2 name hname)⟩
  | failed problem => exact absurd rfl (hissued problem)
  | refused => exact absurd rfl (hexecuted _)
  | entered id g clock formed hdrawn free row new =>
    have hfree : ∀ name ∈ taken, ¬ SameLetters name username := fun name hname hsame => by
      obtain ⟨user, hmem, hlower⟩ := (h.taken_iff formed).2 ⟨name, hname, hsame⟩
      exact free user hmem hlower
    refine ⟨⟨fun _ => ⟨formed, hfree⟩, fun _ => ⟨row, rfl⟩⟩, fun broken => absurd formed broken,
      fun _ ⟨name, hname, hsame⟩ => absurd hsame (hfree name hname), fun user hok => ?_⟩
    obtain rfl := Except.ok.inj hok
    exact ⟨congrArg User.username new, rfl⟩

/-- The users of a registry are told apart by their names. -/
theorem Registry.toldApart {taken : List String} (h : Registry taken w) : ToldApart w := by
  have hlower : w.tables.users.Pairwise fun a b => a.usernameLower ≠ b.usernameLower :=
    List.pairwise_map.1 h.apart
  constructor
  case distinct =>
    refine hlower.imp_of_mem fun {a b} ha hb hne hsame => hne ?_
    rw [h.lower a ha, h.lower b hb, (h.formed b hb).lower_eq hsame]
  case found =>
    intro user hmem name hsame
    have hname : LetterCase.lower name = user.usernameLower := by
      rw [h.lower user hmem, (h.formed user hmem).lower_eq hsame]
    change (Except.ok (w.tables.users.find? (Database.UserKey.byName _).matches), w) = _
    rw [hname, w.tables.find?_byName h.apart hmem]

/-- **User names are unique, whatever their capitals.** Users are entered one after another into a
table without users. Every call that gets what it asks for is settled by the names that were asked
for with success before it, and these are the names of the users at the end, as they were typed, by
which the users are told apart. That other calls fail, for want of an identifier or because the
database fails, changes nothing of this. -/
theorem usernames_unique (sound : w.generator.Sound) (empty : w.tables.users = [])
    (applications : List Application) :
    (∀ earlier c later, calls w applications = earlier ++ c :: later → c.Served →
      c.Settled (names earlier)) ∧
    (after w applications).tables.users.map (·.username) = names (calls w applications) ∧
    ToldApart (after w applications) := by
  have hstart : Registry [] w := .start sound empty
  have hafter : Registry (names (calls w applications)) (after w applications) :=
    hstart.after applications
  refine ⟨fun earlier c later split served => ?_, hafter.kept, hafter.toldApart⟩
  obtain ⟨hfound, did⟩ := hstart.calls split
  exact hfound.settled did served

/-- A name, the same in capitals, a name that begins with the sign of the unit kelvin, of which the
lower case is an ASCII letter, and another name. -/
def visitors : List Application :=
  ["Kim", "KIM", "\u212Aim", "Bob"].map fun username => ⟨.noon, username⟩

/-- Of the four names, the first and the last are entered. -/
theorem usernames_unique_of_visitors :
    let w : World := ⟨⟨[], []⟩, .empty, .unused, .ticking 0, .noon⟩
    w.generator.Sound ∧ w.tables.users = [] ∧
    (∀ c ∈ calls w visitors, c.Served) ∧
    (∀ earlier c later, calls w visitors = earlier ++ c :: later → c.Settled (names earlier)) ∧
    (after w visitors).tables.users.map (·.username) = ["Kim", "Bob"] ∧
    ToldApart (after w visitors) := by
  intro w
  have sound : w.generator.Sound := ⟨by decide, by decide⟩
  let kim : User := ⟨4198400, "Kim", "kim", w.tokens.draw 4198400, .noon⟩
  let bob : User := ⟨8392704, "Bob", "bob", w.tokens.draw 8392704, .noon⟩
  have hanswers : (calls w visitors).map (·.answer) = [.ok kim,
      .error (.conflict "Username already taken"),
      .error (.validation "Username may only contain letters, digits and underscores"),
      .ok bob] := by decide +kernel
  have served : ∀ c ∈ calls w visitors, c.Served := by
    intro c hc
    have hmem := List.mem_map_of_mem (f := Call.answer) hc
    rw [hanswers] at hmem
    constructor
    all_goals
      intro problem hanswer
      rw [hanswer] at hmem
      simp at hmem
  obtain ⟨settled, kept, apart⟩ := usernames_unique sound rfl visitors
  refine ⟨sound, rfl, served, fun earlier c later split => ?_, kept.trans (by decide +kernel),
    apart⟩
  exact settled earlier c later split
    (served c (split ▸ List.mem_append_right _ List.mem_cons_self))

end Forum.Accounts
