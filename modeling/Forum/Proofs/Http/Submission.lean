import Mathlib
import Forum.Proofs.Http.Answers
import Forum.Proofs.Json.Members
import Forum.Proofs.Posts.HalfDone

/-!
# Every valid post can be submitted

Two limits stand in the way of a draft, one on the bytes of the request that carries it and one on
the characters of its title and its text. They fit together: a draft that keeps the second one is
never too long for the first, however many of its characters are escaped, and it arrives as it was
written.
-/

namespace Forum.Http

open Json (WritesText pairChars)

/-! ## Drafts as they are sent -/

/-- A draft as a JSON object without blanks, its two fields in either order, with quotes,
backslashes and control characters escaped in whichever way. -/
inductive WritesDraft (draft : Posts.Draft) : String → Prop
  /-- The title comes first. -/
  | titleFirst {title content : List Char} (ht : WritesText draft.title.toList title)
    (hc : WritesText draft.content.toList content) :
    WritesDraft draft (String.ofList (pairChars "title" "content" title content))
  /-- The text comes first. -/
  | contentFirst {title content : List Char} (ht : WritesText draft.title.toList title)
    (hc : WritesText draft.content.toList content) :
    WritesDraft draft (String.ofList (pairChars "content" "title" content title))

/-- A draft as a JSON value. -/
def draftJson (draft : Posts.Draft) : Json :=
  .object [("title", .string draft.title), ("content", .string draft.content)]

/-- The compact text of this value is one way to write the draft. -/
theorem writesDraft_render (draft : Posts.Draft) : WritesDraft draft (draftJson draft).render := by
  have htitle : ("title" : String).toList.flatMap Json.escape = "title".toList := by decide
  have hcontent : ("content" : String).toList.flatMap Json.escape = "content".toList := by decide
  have hchars : (draftJson draft).chars = pairChars "title" "content"
      (draft.title.toList.flatMap Json.escape) (draft.content.toList.flatMap Json.escape) := by
    simp only [draftJson, Json.chars, Json.memberChars, Json.commas, Json.stringChars, pairChars,
      Json.memberThen, htitle, hcontent, List.cons_append, List.append_assoc, List.nil_append]
  rw [Json.render, hchars]
  exact .titleFirst (Json.writesText_flatMap_escape _) (Json.writesText_flatMap_escape _)

/-- However a draft is written, it is read as the draft. -/
theorem WritesDraft.read {draft : Posts.Draft} {body : String} (h : WritesDraft draft body) :
    readDraft (Utf8.encode body) = .ok draft := by
  have htitle : Json.IsPlain "title" := by simp [Json.IsPlain]
  have hcontent : Json.IsPlain "content" := by simp [Json.IsPlain]
  cases h with
  | titleFirst ht hc =>
    rw [readDraft, Json.readFields_pairChars htitle hcontent rfl rfl ht hc rfl rfl rfl rfl,
      String.ofList_toList, String.ofList_toList]
    rfl
  | contentFirst ht hc =>
    rw [readDraft, Json.readFields_pairChars hcontent htitle rfl rfl hc ht rfl rfl rfl rfl,
      String.ofList_toList, String.ofList_toList]
    rfl

/-- However it is written, it takes no more bytes than a request may have, if its title and its text
have no more characters than they may have. -/
theorem WritesDraft.utf8ByteSize_le {draft : Posts.Draft} {body : String}
    (h : WritesDraft draft body) (title : draft.title.length ≤ 256)
    (content : draft.content.length ≤ 10000) : body.utf8ByteSize ≤ maxBodyBytes := by
  have htitle : ("title" : String).utf8ByteSize = 5 := by decide
  have hcontent : ("content" : String).utf8ByteSize = 7 := by decide
  rw [← String.length_toList] at title content
  rw [maxBodyBytes]
  cases h with
  | titleFirst ht hc =>
    have hle := Json.utf8Len_pairChars_le "title" "content" ht hc
    rw [String.utf8ByteSize_ofList]
    omega
  | contentFirst ht hc =>
    have hle := Json.utf8Len_pairChars_le "content" "title" hc ht
    rw [String.utf8ByteSize_ofList]
    omega

/-! ## Submitting them -/

/-- A draft whose title and text are of an allowed length passes the checks. -/
theorem check_checks_of_valid {draft : Posts.Draft}
    (title : 1 ≤ draft.title.length ∧ draft.title.length ≤ 256)
    (content : draft.content.length ≤ 10000) : LengthRule.check draft.checks = .ok () := by
  have htitle : Posts.titleRule.admits draft.title = true := by
    rw [LengthRule.admits, Bool.and_eq_true, decide_eq_true_eq, decide_eq_true_eq]
    exact title
  have hcontent : Posts.contentRule.admits draft.content = true := by
    rw [LengthRule.admits, Bool.and_eq_true, decide_eq_true_eq, decide_eq_true_eq]
    exact ⟨Nat.zero_le _, content⟩
  simp [LengthRule.check, LengthRule.broken, Posts.Draft.checks, htitle, hcontent]

/-- A request that submits a text as a post, by a user with a row. -/
structure Request.Submits (r : Request) (users : List User) (body : String) : Prop where
  /-- It is to create something. -/
  post : r.method = .post
  /-- It is for the posts. -/
  path : r.target.path = "/api/posts".toList
  /-- Its body is declared to be JSON. -/
  type : r.header? "content-type" = some "application/json"
  /-- It carries the token of a user. -/
  token : ∃ user ∈ users, bearerToken? r = some user.token
  /-- The bytes of its body are those of the text. -/
  carries : r.body = Utf8.encode body
  /-- A length that it declares is that of the body. -/
  declared : ∀ n, declaredLength? r = some n → n = body.utf8ByteSize

section submission

variable {r : Request} {users : List User} {body : String}

/-- Such a request with a body that is not too long is not refused for its length. -/
theorem Request.Submits.not_tooLong (h : r.Submits users body)
    (short : body.utf8ByteSize ≤ maxBodyBytes) : ¬ r.TooLong := by
  intro htoo
  obtain ⟨n, hdeclared, hgreater⟩ := (Option.any_eq_true _ _).1 htoo
  have hn := h.declared n hdeclared
  have hlt := of_decide_eq_true hgreater
  omega

/-- Its body is read. -/
theorem Request.Submits.bears (h : r.Submits users body) (short : body.utf8ByteSize ≤ maxBodyBytes)
    {draft : Posts.Draft} (written : WritesDraft draft body) : r.Bears readDraft draft where
  type := by
    have hjson : MediaType.isJson "application/json" = true := by decide +kernel
    rw [h.type]
    exact hjson
  length := by
    rw [h.carries, Utf8.length_encode, bodyLimit]
    cases hdeclared : declaredLength? r with
    | none => exact Nat.not_lt.2 short
    | some n => exact Nat.not_lt.2 (h.declared n hdeclared).ge
  value := h.carries.symm ▸ written.read

end submission

section premises

open Posts (Premises Store)

variable {σ : Type} (store : Store σ) (now : Timestamp) (rules : Rules) {p : Premises σ}

/-- The caller of a request is looked up, and everything that is kept stays as it is. -/
theorem run_caller_of_token {r : Request} (h : ∃ user ∈ p.tables.users,
    bearerToken? r = some user.token) :
    ∃ user ∈ p.tables.users, bearerToken? r = some user.token ∧ ∃ asked,
      (caller r).run (Premises.answer store now fun _ => none) p =
        (some user, { p with asked := asked }) := by
  obtain ⟨owner, howner, htoken⟩ := h
  have hfound : (p.tables.users.find? (Database.UserKey.byToken owner.token).matches).isSome :=
    List.find?_isSome.2 ⟨owner, howner, decide_eq_true rfl⟩
  obtain ⟨user, huser⟩ := Option.isSome_iff_exists.1 hfound
  have hmatches := List.find?_some huser
  have hsame : user.token = owner.token := of_decide_eq_true hmatches
  have hanswer : Premises.answer store now (fun _ => none)
      (.rows (.findUser (.byToken owner.token))) p =
        (.ok (some user), { p with asked := p.asked ++
          [⟨.rows (.findUser (.byToken owner.token)), .ok (some user)⟩] }) := by
    rw [← huser]
    rfl
  refine ⟨user, List.mem_of_find?_eq_some huser, htoken.trans (congrArg some hsame.symm),
    p.asked ++ [⟨.rows (.findUser (.byToken owner.token)), .ok (some user)⟩], ?_⟩
  rw [caller, htoken]
  dsimp only
  rw [Workflow.run_andThen, Accounts.authenticate, Records.findUserByToken, Records.query,
    Service.run_ask_bind, Workflow.run_ask, hanswer]
  rfl

/-- The identifier that the generator issues is the answer, and both stores stay as they are. -/
theorem answer_freshId_of_drawn {id : Int64} (drawn : (p.generator.generate p.clock).1 = .ok id) :
    ∃ q, Premises.answer store now (fun _ => none) .freshId p = (.ok id, q) ∧ p.Unchanged q := by
  have hreply : (Premises.answer store now (fun _ => none) .freshId p).1 = .ok id := by
    change Except.mapError _ (p.generator.generate p.clock).1 = _
    rw [drawn]
    rfl
  exact ⟨_, Prod.ext hreply rfl, rfl, rfl⟩

/-- A row with a new identifier is entered. -/
theorem answer_addPost_of_new {id : Int64} (new : ¬ p.tables.HasPost id) (author : Int64)
    (title content : String) :
    let row : Post := ⟨id, author, title, content, now⟩
    ∃ q, Premises.answer store now (fun _ => none) (.rows (.addPost id author title content)) p =
        (.ok row, q) ∧
      q.tables.posts = p.tables.posts ++ [row] ∧ q.engagement = p.engagement := by
  intro row
  have hadded := p.tables.addPost_of_new now new author title content
  have hreply : (Premises.answer store now (fun _ => none)
      (.rows (.addPost id author title content)) p).1 = .ok row := congrArg Prod.fst hadded
  have hposts : ((Premises.answer store now (fun _ => none)
      (.rows (.addPost id author title content)) p).2).tables.posts = p.tables.posts ++ [row] :=
    congrArg (fun answered => answered.2.posts) hadded
  exact ⟨_, Prod.ext hreply rfl, hposts, rfl⟩

/-- Writing a draft that passes the checks enters its row, if an identifier is issued that no row
has. It succeeds unless the post has to be registered and is not. -/
theorem run_create_of_drawn {id : Int64} (author : Int64) {draft : Posts.Draft}
    (checked : LengthRule.check draft.checks = .ok ())
    (drawn : (p.generator.generate p.clock).1 = .ok id) (new : ¬ p.tables.HasPost id) :
    let row : Post := ⟨id, author, draft.title, draft.content, now⟩
    let run := (Posts.create rules author draft).run.run (Premises.answer store now fun _ => none) p
    run.2.tables.posts = p.tables.posts ++ [row] ∧
      (rules.autoRegister ∨ (store.answer p.engagement (.register id)).1.isOk →
        run.1 = .ok row) := by
  intro row run
  obtain ⟨q, hissued, htables, hengagement⟩ := answer_freshId_of_drawn store now drawn
  rw [← htables] at new
  obtain ⟨q', hadded, hposts, hkept⟩ :=
    answer_addPost_of_new store now new author draft.title draft.content
  have hrun : run = (Posts.afterRegister rules row
      (store.answer q'.engagement (.register id)).1).run (Premises.answer store now fun _ => none)
        (Premises.answer store now (fun _ => none)
          (.engagement rules.deadline (.register id)) q').2 := by
    change (Posts.create rules author draft).run.run _ p = _
    rw [Posts.create_run_of_checked rules checked, Workflow.run_ask, hissued]
    dsimp only [Posts.afterFreshId]
    rw [Workflow.run_ask, hadded]
    rfl
  rw [hkept, hengagement] at hrun
  rw [htables] at hposts
  rw [hrun]
  cases (store.answer p.engagement (.register id)).1 with
  | ok => exact ⟨hposts, fun _ => rfl⟩
  | error fault =>
    refine ⟨hposts, fun registered => ?_⟩
    have hauto : rules.autoRegister := registered.resolve_right Bool.false_ne_true
    rw [Posts.afterRegister, hauto]
    rfl

end premises

/-- **Every valid post can be submitted.** A draft whose title and text are of an allowed length is
written as JSON in no more bytes than a request may have, and in whichever way it is written so, a
request of a user that submits it enters it as it is under the identifier that is issued. The
request is answered with the post, unless the post has to be registered and is not. -/
theorem valid_draft_is_written (draft : Posts.Draft)
    (title : 1 ≤ draft.title.length ∧ draft.title.length ≤ 256)
    (content : draft.content.length ≤ 10000) :
    WritesDraft draft (draftJson draft).render ∧
    ∀ body, WritesDraft draft body → body.utf8ByteSize ≤ maxBodyBytes ∧
      ∀ (σ : Type) (store : Posts.Store σ) (now : Timestamp) (rules : Rules)
        (p : Posts.Premises σ) (r : Request), r.Submits p.tables.users body →
        ∀ id, (p.generator.generate p.clock).1 = .ok id → ¬ p.tables.HasPost id →
          let run := (respond rules r).run (Posts.Premises.answer store now fun _ => none) p
          ∃ author ∈ p.tables.users, bearerToken? r = some author.token ∧
            let row : Post := ⟨id, author.id, draft.title, draft.content, now⟩
            run.2.tables.posts = p.tables.posts ++ [row] ∧
              (rules.autoRegister ∨ (store.answer p.engagement (.register id)).1.isOk →
                run.1 = dress r (.data (postView row 0 none))) := by
  refine ⟨writesDraft_render draft, fun body written => ?_⟩
  have short := written.utf8ByteSize_le title.2 content
  refine ⟨short, fun σ store now rules p r submits id drawn new => ?_⟩
  obtain ⟨author, hauthor, htoken, asked, hcaller⟩ := run_caller_of_token store now submits.token
  have hoptions : r.method ≠ .options := submits.post.trans_ne (by decide)
  have hroute : Route.ofTarget? r.target = some .posts :=
    Route.ofTarget?_of_path submits.path nofun
  obtain ⟨hposts, hrow⟩ := run_create_of_drawn store now rules (p := { p with asked := asked })
    author.id (check_checks_of_valid title content) drawn new
  have hrun := run_respond rules hoptions (submits.not_tooLong short) hroute hcaller
  rw [handle_createPost_run rules submits.post (submits.bears short written), Workflow.run_andThen]
    at hrun
  refine ⟨author, hauthor, htoken, ?_⟩
  rw [hrun]
  refine ⟨hposts, fun registered => ?_⟩
  rw [hrow registered]
  rfl

/-- A draft with characters of every kind. -/
def quoting : Posts.Draft :=
  ⟨"On \"\\\"", "Zürich\n\u0001𝔘"⟩

/-- A database with one user. -/
def inhabited : Posts.Premises Engagement.Tally :=
  ⟨⟨[⟨1, "ann", "ann", "a", .noon⟩], []⟩, .empty, .unused, .ticking 0, []⟩

/-- The user submits the draft, and is shown the post. -/
theorem valid_draft_is_written_of_quotes :
    let rules : Rules := ⟨true, 2000, 8, ⟨20, 100⟩⟩
    let headers := [("content-type", "application/json"), ("authorization", "Bearer a")]
    let r : Request := ⟨.post, ⟨"/api/posts".toList, none⟩, headers, (draftJson quoting).render⟩
    let run :=
      (respond rules r).run (Posts.Premises.answer .inProcess .noon fun _ => none) inhabited
    let row : Post := ⟨4198400, 1, quoting.title, quoting.content, .noon⟩
    (draftJson quoting).render =
        "\x7b\"title\":\"On \\\"\\\\\\\"\",\"content\":\"Zürich\\n\\u0001𝔘\"\x7d" ∧
      run.2.tables.posts = [row] ∧ run.1 = dress r (.data (postView row 0 none)) := by
  intro rules headers r run row
  obtain ⟨hwritten, hsubmitted⟩ := valid_draft_is_written quoting (by decide) (by decide)
  have hsubmits : r.Submits inhabited.tables.users (draftJson quoting).render :=
    ⟨rfl, rfl, rfl, ⟨_, List.mem_singleton_self _, rfl⟩, rfl, nofun⟩
  have hnew : ¬ inhabited.tables.HasPost 4198400 := fun ⟨_, hrow, _⟩ => List.not_mem_nil hrow
  obtain ⟨author, hauthor, -, hrun⟩ := (hsubmitted _ hwritten).2 _ .inProcess .noon rules
    inhabited r hsubmits 4198400 rfl hnew
  obtain rfl := List.mem_singleton.1 hauthor
  exact ⟨by decide +kernel, hrun.1, hrun.2 (.inl rfl)⟩

end Forum.Http
