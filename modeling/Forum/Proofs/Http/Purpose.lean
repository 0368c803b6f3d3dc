import Mathlib
import Forum.Proofs.Http.Path
import Forum.Proofs.Service.Programs
import Forum.Proofs.World.Reading

/-!
# What requests come down to

A request is answered at once, or its caller is looked up first. Then it asks to show something and
only reads, or it is refused, or it does one of four deeds: it enters a user, or a caller who is
known writes a post, deletes one or votes on one. The method and the path of the request say which,
and what is left to do is to show the result. So what holds of reading and of these four services
holds of every request.
-/

namespace Forum.Http

variable {α β : Type}

/-! ## What handlers are made of -/

/-- The response to a fault reports a failure. -/
theorem le_status_ofFault (fault : Fault) : 400 ≤ (Response.ofFault fault).status := by
  have hstatus : (Response.ofFault fault).status = fault.status := by
    rw [Response.ofFault]
    split <;> rfl
  rw [hstatus]
  cases fault <;> simp only [Fault.status] <;> first | decide | split <;> decide

/-- A handler that needs something goes on with it, or ends with a response. -/
theorem orRespond_bind_cases (value : Option α) (response : Response) (f : α → Handler β) :
    (orRespond value response >>= f).run = .done (.error response) ∨
      ∃ a, value = some a ∧ (orRespond value response >>= f).run = (f a).run := by
  cases value with
  | none => exact .inl rfl
  | some a => exact .inr ⟨a, rfl, rfl⟩

/-- So does a handler that reads the body. -/
theorem readBody_bind_cases (r : Request) (fields : List Json.Field)
    (read : List UInt8 → Except Json.Problem α) (f : α → Handler β) :
    (∃ response, (readBody r fields read >>= f).run = .done (.error response) ∧
        400 ≤ response.status) ∨
      ∃ a, (readBody r fields read >>= f).run = (f a).run := by
  rw [readBody]
  dsimp only
  by_cases htype : (!(r.header? "content-type").any MediaType.isJson) = true
  · rw [if_pos htype]
    exact .inl ⟨_, rfl, by decide⟩
  · rw [if_neg htype]
    by_cases hlength : bodyLimit r < r.body.length
    · rw [if_pos hlength]
      exact .inl ⟨_, rfl, by decide⟩
    · rw [if_neg hlength]
      cases read r.body with
      | ok a => exact .inr ⟨a, rfl⟩
      | error problem => exact .inl ⟨_, rfl, by cases problem <;> simp [unreadableBody]⟩

/-- A handler that uses a service goes on with its value, and shows its fault. -/
theorem useService_bind_run (s : Service α) (f : α → Handler β) :
    (useService s >>= f).run = s.run.andThen fun
      | .ok a => (f a).run
      | .error fault => .done (.error (.ofFault fault)) := by
  rw [ExceptT.run_bind, useService, ExceptT.run_mk, Workflow.bind_eq_andThen,
    Workflow.andThen_assoc]
  congr 1
  funext result
  cases result <;> rfl

/-- A handler that uses a service and shows its value. -/
theorem useService_return_run (s : Service α) (view : α → Response) :
    (useService s >>= fun a => (return view a : Handler Response)).run =
      s.run.andThen fun result => .done ((result.mapError Response.ofFault).map view) := by
  rw [useService_bind_run]
  congr 1
  funext result
  cases result <;> rfl

/-- Two services, one after the other, are used like one. -/
theorem useService_bind_useService (s : Service α) (t : α → Service β)
    {γ : Type} (f : β → Handler γ) :
    (useService s >>= fun a => useService (t a) >>= f).run = (useService (s >>= t) >>= f).run := by
  rw [useService_bind_run, useService_bind_run, ExceptT.run_bind, Workflow.bind_eq_andThen,
    Workflow.andThen_assoc]
  congr 1
  funext result
  cases result with
  | ok a => exact useService_bind_run (t a) f
  | error fault => rfl

/-- A handler asks what the services ask that it uses. -/
theorem asks_useService {P : Effect → Prop} {s : Service α} {f : α → Handler β}
    (hs : s.run.Asks P) (hf : ∀ a, (f a).run.Asks P) : (useService s >>= f).run.Asks P := by
  rw [useService_bind_run]
  refine hs.andThen fun result => ?_
  cases result with
  | ok a => exact hf a
  | error fault => trivial

/-! ## Handlers that only read -/

open Workflow

variable (rules : Rules) (user : Option User)

/-- A handler that needs something reads if it reads with it. -/
theorem asks_orRespond {P : Effect → Prop} {value : Option α} {response : Response}
    {f : α → Handler β} (hf : ∀ a, (f a).run.Asks P) :
    (orRespond value response >>= f).run.Asks P := by
  rcases orRespond_bind_cases value response f with hend | ⟨a, -, hgo⟩
  · rw [hend]
    trivial
  · rw [hgo]
    exact hf a

/-- Showing the caller only reads. -/
theorem asks_showMe : (showMe user).run.Asks Effect.browses :=
  asks_orRespond fun _ => asks_pure _

/-- So does showing a page of posts. -/
theorem asks_listPosts (r : Request) : (listPosts rules r).run.Asks Effect.browses :=
  asks_orRespond fun request => asks_useService (Listing.asks_list rules request) fun page =>
    asks_useService (Posts.asks_hydrate rules page.ids) fun _ => asks_pure _

/-- So does showing a post. -/
theorem asks_showPost (segment : List Char) :
    (showPost rules user segment).run.Asks Effect.browses := by
  refine asks_orRespond fun id => asks_useService (Posts.asks_get rules id) fun view => ?_
  cases user with
  | none => exact asks_pure _
  | some user =>
    exact asks_useService (Voting.asks_voteOf rules id user.id) fun _ => asks_pure _

/-- So does showing a vote. -/
theorem asks_showVote (segment : List Char) :
    (showVote rules user segment).run.Asks Effect.browses :=
  asks_orRespond fun user => asks_orRespond fun id =>
    asks_useService (Voting.asks_voteOf rules id user.id) fun _ => asks_pure _

/-- Finding the caller only looks up the user with the token of the request. -/
theorem asks_caller {P : Effect → Prop} {r : Request}
    (h : ∀ token, bearerToken? r = some token → P (.rows (.findUser (.byToken token)))) :
    (caller r).Asks P := by
  rw [caller]
  split
  · trivial
  · next token htoken =>
    refine (Accounts.asks_authenticate (h token htoken)).andThen fun result => ?_
    cases result <;> trivial

/-! ## Deeds -/

/-- A vote on a post that has to have a row. -/
def voteOnExisting (id voter : Int64) (direction : Direction) : Service Voting.Receipt := do
  Posts.requireExisting id
  Voting.vote rules id voter direction

/-- A vote on a post that has to have a row looks it up first. -/
theorem voteOnExisting_run (id voter : Int64) (direction : Direction) :
    (voteOnExisting rules id voter direction).run =
      .ask (.rows (.findPost id)) (Posts.afterLookUp id fun _ =>
        (Voting.vote rules id voter direction).run) := by
  rw [voteOnExisting, Posts.requireExisting, bind_assoc, Posts.getPost_run_bind]
  rfl

/-- What a request can do. -/
inductive Deed where
  /-- Enter a user. -/
  | enterUser (username : String)
  /-- Write a post. -/
  | writePost (author : Int64) (draft : Posts.Draft)
  /-- Delete a post. -/
  | deletePost (author post : Int64)
  /-- Vote on a post. -/
  | vote (voter post : Int64) (direction : Direction)

namespace Deed

/-- The type of the result of a deed. -/
abbrev Reply : Deed → Type
  | enterUser _ => User
  | writePost .. => Post
  | deletePost .. => Unit
  | vote .. => Voting.Receipt

/-- The service that does it. -/
def service : (d : Deed) → Service d.Reply
  | enterUser username => Accounts.create username
  | writePost author draft => Posts.create rules author draft
  | deletePost author post => Posts.delete rules post author
  | vote voter post direction => voteOnExisting rules post voter direction

/-- The response that shows the result. -/
def view : (d : Deed) → d.Reply → Response
  | enterUser _, user => .data (newUserView user)
  | writePost .., post => .data (postView post 0 none)
  | deletePost .., () => .empty 204
  | vote .., receipt => .data (receiptView receipt)

/-- The response to a deed that was done or refused. -/
def response (d : Deed) : Except Fault d.Reply → Response
  | .ok reply => d.view reply
  | .error fault => .ofFault fault

/-- Whether a request from a caller asks for a deed. -/
def Asked (r : Request) (user : Option User) : Deed → Prop
  | enterUser _ => r.method = .post ∧ r.target.path = Route.users.path
  | writePost author _ => r.method = .post ∧ r.target.path = Route.posts.path ∧
    ∃ known, user = some known ∧ known.id = author
  | deletePost author post => r.method = .delete ∧ r.IsAt post "" ∧
    ∃ known, user = some known ∧ known.id = author
  | vote voter post direction => r.method = .post ∧ r.IsAt post ("/" ++ direction.name) ∧
    ∃ known, user = some known ∧ known.id = voter

/-- No request to show something asks for a deed. -/
theorem Asked.method {r : Request} {user : Option User} {d : Deed} (h : d.Asked r user) :
    r.method ≠ .get ∧ r.method ≠ .head := by
  have hmethod : r.method = .post ∨ r.method = .delete := by
    cases d with
    | enterUser | writePost | vote => exact .inl h.1
    | deletePost => exact .inr h.1
  rcases hmethod with hpost | hdelete
  · rw [hpost]
    exact ⟨nofun, nofun⟩
  · rw [hdelete]
    exact ⟨nofun, nofun⟩

end Deed

/-! ## Purposes -/

variable (r : Request)

/-- What a handler comes down to, given the request and its caller. -/
inductive Purpose (h : Handler Response) : Prop
  /-- The request asks to show something. For that it only reads, and not the users. -/
  | shows (method : r.method = .get ∨ r.method = .head) (asks : h.run.Asks Effect.browses)
  /-- It refuses the request at once. -/
  | refuses {result : Except Response Response} (same : h.run = .done result)
    (status : 400 ≤ (settled result).status)
  /-- It does what the request asks for, and shows the result. -/
  | does (d : Deed) (asked : d.Asked r user) (same : h.run =
      (d.service rules).run.andThen fun result =>
        .done ((result.mapError Response.ofFault).map d.view))

variable {rules user r}

/-- A handler that goes on has the purpose of what follows. -/
theorem Purpose.of_run {h h' : Handler Response} (hgo : h.run = h'.run)
    (hpurpose : Purpose rules user r h') : Purpose rules user r h := by
  cases hpurpose with
  | shows method asks => exact .shows method (hgo ▸ asks)
  | refuses same status => exact .refuses (hgo.trans same) status
  | does d asked same => exact .does d asked (hgo.trans same)

/-- A request that is not for a resource with its method is refused. -/
theorem Purpose.refused : Purpose rules user r (pure (.empty 405)) :=
  .refuses rfl (by decide)

/-- A request to enter a user. -/
theorem purpose_createUser (hmethod : r.method = .post)
    (hroute : Route.ofTarget? r.target = some .users) :
    Purpose rules user r (createUser r) := by
  rw [createUser]
  rcases readBody_bind_cases r accountFields readUsername _ with
    ⟨response, hend, hstatus⟩ | ⟨username, hgo⟩
  · exact .refuses hend hstatus
  · exact .of_run hgo (.does (.enterUser username) ⟨hmethod, Route.path_of_ofTarget? hroute⟩
      (useService_return_run _ _))

/-- A request to write a post. -/
theorem purpose_createPost (hmethod : r.method = .post)
    (hroute : Route.ofTarget? r.target = some .posts) :
    Purpose rules user r (createPost rules user r) := by
  rw [createPost, requireUser]
  rcases orRespond_bind_cases user _ _ with hend | ⟨author, known, hgo⟩
  · exact .refuses hend (le_status_ofFault .unauthorized)
  · refine .of_run hgo ?_
    rcases readBody_bind_cases r draftFields readDraft _ with
      ⟨response, hend, hstatus⟩ | ⟨draft, hgo⟩
    · exact .refuses hend hstatus
    · exact .of_run hgo (.does (.writePost author.id draft)
        ⟨hmethod, Route.path_of_ofTarget? hroute, author, known, rfl⟩ (useService_return_run _ _))

/-- A request to delete a post. -/
theorem purpose_deletePost {segment : List Char} (hmethod : r.method = .delete)
    (hroute : Route.ofTarget? r.target = some (.post segment)) :
    Purpose rules user r (deletePost rules user segment) := by
  rw [deletePost, requireUser]
  rcases orRespond_bind_cases user _ _ with hend | ⟨author, known, hgo⟩
  · exact .refuses hend (le_status_ofFault .unauthorized)
  · refine .of_run hgo ?_
    rw [pathId]
    rcases orRespond_bind_cases _ _ _ with hend | ⟨id, hid, hgo⟩
    · exact .refuses hend (by simp [settled])
    · have hat : r.IsAt id "" :=
        ⟨segment, (Route.path_of_ofTarget? hroute).trans (List.append_nil _).symm, hid⟩
      exact .of_run hgo (.does (.deletePost author.id id) ⟨hmethod, hat, author, known, rfl⟩
        (useService_return_run _ _))

/-- A request to vote. -/
theorem purpose_voteOn {segment : List Char} {direction : Direction} {route : Route}
    (hmethod : r.method = .post) (hroute : Route.ofTarget? r.target = some route)
    (hpath : route.path = "/api/posts/".toList ++ segment ++ ("/" ++ direction.name).toList) :
    Purpose rules user r (voteOn rules user segment direction) := by
  rw [voteOn, requireUser]
  rcases orRespond_bind_cases user _ _ with hend | ⟨voter, known, hgo⟩
  · exact .refuses hend (le_status_ofFault .unauthorized)
  · refine .of_run hgo ?_
    rw [pathId]
    rcases orRespond_bind_cases _ _ _ with hend | ⟨id, hid, hgo⟩
    · exact .refuses hend (by simp [settled])
    · have hat : r.IsAt id ("/" ++ direction.name) :=
        ⟨segment, (Route.path_of_ofTarget? hroute).trans hpath, hid⟩
      refine .of_run hgo (.does (.vote voter.id id direction) ⟨hmethod, hat, voter, known, rfl⟩ ?_)
      rw [useService_bind_useService]
      exact useService_return_run _ _

variable (rules user)

/-- A request for any resource. -/
theorem purpose_handle {route : Route} (hroute : Route.ofTarget? r.target = some route) :
    Purpose rules user r (handle rules user r route) := by
  have post_of_admits : ∀ {other : Route}, other.allowed = "POST" → other.admits r.method →
      r.method = .post := by
    intro other hallowed hadmits
    cases other <;> cases hmethod : r.method <;>
      simp_all [Route.admits, Route.allowed]
  have shows_of_admits : ∀ {other : Route}, other.allowed = "GET,HEAD" → other.admits r.method →
      r.method = .get ∨ r.method = .head := by
    intro other hallowed hadmits
    cases other <;> cases hmethod : r.method <;>
      simp_all [Route.admits, Route.allowed]
  cases route with
  | health =>
    rw [handle]
    split
    · next hadmits => exact .shows (shows_of_admits rfl hadmits) trivial
    · exact .refused
  | users =>
    rw [handle]
    split
    · next hadmits => exact purpose_createUser (post_of_admits rfl hadmits) hroute
    · exact .refused
  | me =>
    rw [handle]
    split
    · next hadmits => exact .shows (shows_of_admits rfl hadmits) (asks_showMe user)
    · exact .refused
  | posts =>
    rw [handle]
    split
    · next hmethod => exact purpose_createPost hmethod hroute
    · next hmethod => exact .shows (.inl hmethod) (asks_listPosts rules r)
    · next hmethod => exact .shows (.inr hmethod) (asks_listPosts rules r)
    · exact .refused
  | post segment =>
    rw [handle]
    split
    · next hmethod => exact purpose_deletePost hmethod hroute
    · next hmethod => exact .shows (.inl hmethod) (asks_showPost rules user segment)
    · next hmethod => exact .shows (.inr hmethod) (asks_showPost rules user segment)
    · exact .refused
  | like segment | dislike segment =>
    rw [handle]
    split
    · next hadmits => exact purpose_voteOn (post_of_admits rfl hadmits) hroute rfl
    · exact .refused
  | vote segment =>
    rw [handle]
    split
    · next hadmits => exact .shows (shows_of_admits rfl hadmits) (asks_showVote rules user segment)
    · exact .refused

/-- What is left to do of a request when its handler is done. -/
def finish (r : Request) (h : Handler Response) : Workflow Response :=
  h.run.andThen fun result => .done (dress r (settled result))

/-- A handler that does a deed ends in the response to it. -/
theorem finish_of_does {h : Handler Response} {d : Deed} (same : h.run =
    (d.service rules).run.andThen fun result =>
      .done ((result.mapError Response.ofFault).map d.view)) :
    finish r h =
      (d.service rules).run.andThen fun result => .done (dress r (d.response result)) := by
  rw [finish, same, andThen_assoc]
  congr 1
  funext result
  cases result <;> rfl

variable (r)

/-- Dressing a response keeps its status. -/
theorem status_dress (response : Response) : (dress r response).status = response.status := by
  unfold dress
  split <;> rfl

/-- A request is answered at once, because it is one for options or too long, or after its caller
was looked up, and then it has one of the purposes. -/
theorem respond_cases :
    (∃ response, respond rules r = .done response ∧
      (r.method = .options ∨ 400 ≤ response.status)) ∨
      ∃ f : Option User → Handler Response,
        respond rules r = (caller r).andThen (fun user => finish r (f user)) ∧
        ∀ user, Purpose rules user r (f user) := by
  rw [respond]
  split
  · next hoptions => exact .inl ⟨_, rfl, .inl hoptions⟩
  · split
    · exact .inl ⟨_, rfl, .inr (by rw [status_dress]; decide)⟩
    · rw [answer, andThen_assoc]
      cases hroute : Route.ofTarget? r.target with
      | none =>
        exact .inr ⟨fun _ => pure (.empty 404), rfl, fun _ => .refuses rfl (by decide)⟩
      | some route =>
        refine .inr ⟨fun user => handle rules user r route, ?_, fun user =>
          purpose_handle rules user hroute⟩
        congr 1
        funext user
        exact andThen_assoc _ _ _

end Forum.Http
