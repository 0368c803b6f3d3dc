import Mathlib
import Forum.Proofs.Http.Purpose
import Forum.Proofs.Http.Routing
import Forum.Proofs.World.Services

/-!
# What requests are answered

The answers to single requests in closed form. Unless a request is refused for its length, its
caller is looked up, then the handler of its resource runs; when that only reads, the answer is what
is read. So a page of posts shows the rows and the scores that the stores hold, a post is shown if
it has a row, and what is asked of a post without one is not found.
-/

namespace Forum.Http

/-- Whether a request declares a body that is too long. -/
def Request.TooLong (r : Request) : Prop :=
  (declaredLength? r).any (maxBodyBytes < ·)

/-- Whether a request asks for a page of posts. -/
structure Request.AsksPage (r : Request) (request : Page.Request) : Prop where
  /-- It asks to show something. -/
  method : r.method = .get
  /-- It is for the posts. -/
  path : r.target.path = Route.posts.path
  /-- Its query can be read. -/
  query : pageRequest? r.target.query = some request
  /-- No body is declared that is too long. -/
  short : ¬ r.TooLong

section surroundings

variable {σ α β : Type} {answer : (e : Effect) → σ → Except Fault e.Reply × σ} {s : σ}

/-- A handler that uses a service goes on with its value. -/
theorem run_useService_bind {service : Service α} {a : α}
    (h : service.run.run answer s = (.ok a, s)) (f : α → Handler β) :
    (useService service >>= f).run.run answer s = (f a).run.run answer s := by
  rw [useService_bind_run, Workflow.run_andThen, h]

/-- A handler that uses a service ends with the response to its fault. -/
theorem run_useService_bind_of_error {service : Service α} {fault : Fault}
    (h : service.run.run answer s = (.error fault, s)) (f : α → Handler β) :
    (useService service >>= f).run.run answer s = (.error (.ofFault fault), s) := by
  rw [useService_bind_run, Workflow.run_andThen, h]
  rfl

variable (rules : Rules) {r : Request}

/-- A request is answered by the handler of its resource, once its caller is known. -/
theorem run_respond {route : Route} {user : Option User} (options : r.method ≠ .options)
    (short : ¬ r.TooLong) (hroute : Route.ofTarget? r.target = some route) {s' : σ}
    (hcaller : (caller r).run answer s = (user, s')) :
    (respond rules r).run answer s =
      (dress r (settled ((handle rules user r route).run.run answer s').1),
        ((handle rules user r route).run.run answer s').2) := by
  have hshort : ¬ (declaredLength? r).any (maxBodyBytes < ·) := short
  rw [respond, if_neg options, if_neg hshort, Http.answer, Workflow.run_andThen,
    Workflow.run_andThen, hcaller, hroute]
  dsimp only
  rw [Workflow.run_andThen]
  rfl

/-- A request for a page of posts is answered with that page, once the rows and scores of its posts
have been looked up. -/
theorem run_respond_of_asksPage {request : Page.Request} (h : r.AsksPage request) {page : Page}
    {views : List Posts.View} (hcaller : ((caller r).run answer s).2 = s)
    (hpage : (Listing.list rules request).run.run answer s = (.ok page, s))
    (hviews : (Posts.hydrate rules page.ids).run.run answer s = (.ok views, s)) :
    (respond rules r).run answer s = (dress r (.data (pageView page views)), s) := by
  have hroute : Route.ofTarget? r.target = some .posts := Route.ofTarget?_of_path h.path nofun
  have hoptions : r.method ≠ .options := h.method.trans_ne (by decide)
  have hhandler : ∀ user, (handle rules user r .posts).run.run answer s =
      (.ok (.data (pageView page views)), s) := by
    intro user
    have hlist : handle rules user r .posts = listPosts rules r := by
      rw [handle, h.method]
    rw [hlist, listPosts, h.query, orRespond]
    change (useService (Listing.list rules request) >>= _).run.run answer s = _
    rw [run_useService_bind hpage, run_useService_bind hviews]
    rfl
  have hcalled : (caller r).run answer s = (((caller r).run answer s).1, s) := Prod.ext rfl hcaller
  rw [run_respond rules hoptions h.short hroute hcalled, hhandler]
  rfl

end surroundings

/-! ## In the world -/

section world

variable (w : World) (rules : Rules) {r : Request} {id : Int64}

/-- The user whose token a request carries. -/
def callerIn (r : Request) : Option User :=
  (bearerToken? r).bind fun token =>
    w.tables.users.find? (Database.UserKey.byToken token).matches

/-- Whether a request carries the token of a user. -/
def Request.Authenticated (r : Request) (w : World) : Prop :=
  ∃ user ∈ w.tables.users, bearerToken? r = some user.token

/-- A request with the token of a user has a caller. -/
theorem Request.Authenticated.caller (h : r.Authenticated w) :
    ∃ user, callerIn w r = some user := by
  obtain ⟨user, huser, htoken⟩ := h
  have hfound : (w.tables.users.find? (Database.UserKey.byToken user.token).matches).isSome :=
    List.find?_isSome.2 ⟨user, huser, decide_eq_true rfl⟩
  rw [callerIn, htoken]
  exact Option.isSome_iff_exists.1 hfound

/-- The caller of a request is looked up among the users. -/
theorem run_caller (r : Request) : w.run (caller r) = (callerIn w r, w) := by
  rw [caller, callerIn]
  cases bearerToken? r with
  | none => rfl
  | some token =>
    have hanswer : World.answer (.rows (.findUser (.byToken token))) w =
        (.ok (w.tables.users.find? (Database.UserKey.byToken token).matches), w) := rfl
    dsimp only
    rw [World.run, Workflow.run_andThen, Accounts.authenticate, Records.findUserByToken,
      Records.query, Service.run_ask_bind, Workflow.run_ask, hanswer, Option.bind_some]
    cases w.tables.users.find? (Database.UserKey.byToken token).matches <;> rfl

/-- What looks up a post first goes on with its row. -/
theorem run_lookUp_of_found {α : Type} {row : Post}
    (found : w.tables.posts.find? (·.id = id) = some row)
    (otherwise : Post → Workflow (Except Fault α)) :
    w.run (.ask (.rows (.findPost id)) (Posts.afterLookUp id otherwise)) =
      w.run (otherwise row) := by
  have hanswer : World.answer (.rows (.findPost id)) w = (.ok (some row), w) := by
    rw [← found]
    rfl
  rw [World.run, Workflow.run_ask, hanswer]
  rfl

/-- It ends with a fault if the post has no row. -/
theorem run_lookUp_of_absent {α : Type} (absent : ¬ w.tables.HasPost id)
    (otherwise : Post → Workflow (Except Fault α)) :
    w.run (.ask (.rows (.findPost id)) (Posts.afterLookUp id otherwise)) =
      (.error (.postNotFound id), w) := by
  have hnone : w.tables.posts.find? (·.id = id) = none := by
    rw [List.find?_eq_none]
    exact fun row hrow hid => absent ⟨row, hrow, of_decide_eq_true hid⟩
  have hanswer : World.answer (.rows (.findPost id)) w = (.ok none, w) := by
    rw [← hnone]
    rfl
  rw [World.run, Workflow.run_ask, hanswer]
  rfl

/-- The vote of a user is looked up in the tally. -/
theorem runService_voteOf (post user : Int64) :
    w.runService (Voting.voteOf rules post user) = (.ok (w.tally.voteOf post user), w) :=
  w.sources.run_call rules (c := .voteOf post user) trivial

/-- A handler that takes the identifier from a segment goes on with the post it stands for. -/
theorem pathId_bind {α : Type} {segment : List Char} (h : postOf? segment = some id)
    (f : Int64 → Handler α) : pathId segment >>= f = f id := by
  have hread : (decodePathPart? segment).bind Numeral.int64? = some id := h
  rw [pathId, hread]
  rfl

/-- Whether the body of a request can be read as a value. -/
structure Request.Bears {α : Type} (r : Request) (read : List UInt8 → Except Json.Problem α)
    (a : α) : Prop where
  /-- Its type is JSON. -/
  type : (r.header? "content-type").any MediaType.isJson
  /-- It is no longer than declared. -/
  length : ¬ bodyLimit r < r.body.length
  /-- It is read as the value. -/
  value : read r.body = .ok a

/-- A handler that reads such a body goes on with the value. -/
theorem readBody_bind {α β : Type} {read : List UInt8 → Except Json.Problem α} {a : α}
    (h : r.Bears read a) (fields : List Json.Field) (f : α → Handler β) :
    readBody r fields read >>= f = f a := by
  have htype : ¬ (!(r.header? "content-type").any MediaType.isJson) = true := by
    rw [h.type]
    decide
  rw [readBody]
  dsimp only
  rw [if_neg htype, if_neg h.length, h.value]
  rfl

/-- The handler of a request to write a post writes it and shows it. -/
theorem handle_createPost_run (post : r.method = .post) {draft : Posts.Draft}
    (body : r.Bears readDraft draft) (user : User) :
    (handle rules (some user) r .posts).run =
      (Posts.create rules user.id draft).run.andThen fun result =>
        .done ((result.mapError Response.ofFault).map fun row => .data (postView row 0 none)) := by
  have hhandle : handle rules (some user) r .posts =
      (useService (Posts.create rules user.id draft) >>= fun row =>
        pure (.data (postView row 0 none))) := by
    rw [handle, post]
    exact readBody_bind body _ _
  rw [hhandle]
  exact useService_return_run _ _

variable (short : ¬ r.TooLong)

include short

/-- A request is answered with what its handler ends in. -/
theorem run_respond_of_handler {route : Route} {result : Except Response Response} {w' : World}
    (options : r.method ≠ .options) (hroute : Route.ofTarget? r.target = some route)
    (handler : w.run (handle rules (callerIn w r) r route).run = (result, w')) :
    w.run (respond rules r) = (dress r (settled result), w') := by
  have hrun := run_respond rules options short hroute (run_caller w r)
  rw [World.run] at handler
  rw [handler] at hrun
  exact hrun

/-- A request whose handler does a deed is answered with what the deed ends in. -/
theorem run_respond_of_deed {route : Route} (d : Deed) (options : r.method ≠ .options)
    (hroute : Route.ofTarget? r.target = some route)
    (does : (handle rules (callerIn w r) r route).run = (d.service rules).run.andThen fun result =>
      .done ((result.mapError Response.ofFault).map d.view)) :
    w.run (respond rules r) = (dress r (d.response (w.runService (d.service rules)).1),
      (w.runService (d.service rules)).2) := by
  have hdone : w.run (handle rules (callerIn w r) r route).run =
      (((w.runService (d.service rules)).1.mapError .ofFault).map d.view,
        (w.runService (d.service rules)).2) := by
    rw [does, World.run, Workflow.run_andThen]
    rfl
  rw [run_respond_of_handler w rules short options hroute hdone]
  cases (w.runService (d.service rules)).1 <;> rfl

/-- If the deed fails and leaves no trace, the answer is its fault. -/
theorem run_respond_of_fault {route : Route} (d : Deed) (options : r.method ≠ .options)
    (hroute : Route.ofTarget? r.target = some route)
    (does : (handle rules (callerIn w r) r route).run = (d.service rules).run.andThen fun result =>
      .done ((result.mapError Response.ofFault).map d.view)) {fault : Fault}
    (fails : w.runService (d.service rules) = (.error fault, w)) :
    w.run (respond rules r) = (dress r (.ofFault fault), w) := by
  rw [run_respond_of_deed w rules short d options hroute does, fails]
  rfl

/-- A post with a row is shown as its row has it, with its score and the caller's vote. -/
theorem run_respond_of_found (get : r.method = .get) (at_post : r.IsAt id "") {row : Post}
    (found : w.tables.posts.find? (·.id = id) = some row) :
    ∃ score vote, w.run (respond rules r) = (dress r (.data (postView row score vote)), w) := by
  obtain ⟨segment, hid, hroute⟩ := at_post.route .post (fun _ => rfl)
    fun cs => (List.append_nil _).symm
  have hoptions : r.method ≠ .options := get.trans_ne (by decide)
  have hview : w.runService (Posts.get rules id) =
      (.ok ⟨row, (w.tally.scoreOf id).getD 0⟩, w) := by
    rw [World.runService, Posts.get, Posts.getPost_run_bind, run_lookUp_of_found w found]
    exact Service.run_bind_of_ok (w.sources.run_scoreOrZero rules id) _
  have hhandler : ∀ user, ∃ vote, w.run (handle rules user r (.post segment)).run =
      (.ok (.data (postView row ((w.tally.scoreOf id).getD 0) vote)), w) := by
    intro user
    have hshow : handle rules user r (.post segment) = showPost rules user segment := by
      rw [handle, get]
    rw [hshow, showPost, pathId_bind hid, World.run, run_useService_bind hview]
    cases user with
    | none => exact ⟨none, rfl⟩
    | some user =>
      exact ⟨_, run_useService_bind (runService_voteOf w rules id user.id) _⟩
  obtain ⟨vote, hvote⟩ := hhandler (callerIn w r)
  exact ⟨_, vote, run_respond_of_handler w rules short hoptions hroute hvote⟩

/-- A post without a row is not shown. -/
theorem run_respond_of_absent (get : r.method = .get) (at_post : r.IsAt id "")
    (absent : ¬ w.tables.HasPost id) :
    w.run (respond rules r) = (dress r (.ofFault (.postNotFound id)), w) := by
  obtain ⟨segment, hid, hroute⟩ := at_post.route .post (fun _ => rfl)
    fun cs => (List.append_nil _).symm
  have hoptions : r.method ≠ .options := get.trans_ne (by decide)
  have hview : w.runService (Posts.get rules id) = (.error (.postNotFound id), w) := by
    rw [World.runService, Posts.get, Posts.getPost_run_bind, run_lookUp_of_absent w absent]
  have hhandler : w.run (handle rules (callerIn w r) r (.post segment)).run =
      (.error (.ofFault (.postNotFound id)), w) := by
    have hshow : handle rules (callerIn w r) r (.post segment) =
        showPost rules (callerIn w r) segment := by
      rw [handle, get]
    rw [hshow, showPost, pathId_bind hid]
    exact run_useService_bind_of_error hview _
  exact run_respond_of_handler w rules short hoptions hroute hhandler

variable (authenticated : r.Authenticated w)

include authenticated

/-- A post without a row is not deleted. -/
theorem run_respond_of_delete_absent (delete : r.method = .delete) (at_post : r.IsAt id "")
    (absent : ¬ w.tables.HasPost id) :
    w.run (respond rules r) = (dress r (.ofFault (.postNotFound id)), w) := by
  obtain ⟨user, huser⟩ := authenticated.caller w
  obtain ⟨segment, hid, hroute⟩ := at_post.route .post (fun _ => rfl)
    fun cs => (List.append_nil _).symm
  have hoptions : r.method ≠ .options := delete.trans_ne (by decide)
  have hfails : w.runService (Posts.delete rules id user.id) = (.error (.postNotFound id), w) := by
    rw [World.runService, Posts.delete_run, run_lookUp_of_absent w absent]
  have hhandle : handle rules (callerIn w r) r (.post segment) =
      (useService (Posts.delete rules id user.id) >>= fun _ => pure (.empty 204)) := by
    rw [huser, handle, delete]
    exact pathId_bind hid _
  refine run_respond_of_fault w rules short (.deletePost user.id id) hoptions hroute ?_ hfails
  rw [hhandle]
  exact useService_return_run _ _

/-- Nobody votes on a post without a row. -/
theorem run_respond_of_vote_absent (post : r.method = .post) {direction : Direction}
    (at_post : r.IsAt id ("/" ++ direction.name)) (absent : ¬ w.tables.HasPost id) :
    w.run (respond rules r) = (dress r (.ofFault (.postNotFound id)), w) := by
  obtain ⟨user, huser⟩ := authenticated.caller w
  have hoptions : r.method ≠ .options := post.trans_ne (by decide)
  have hfails : w.runService (voteOnExisting rules id user.id direction) =
      (.error (.postNotFound id), w) := by
    rw [World.runService, voteOnExisting_run, run_lookUp_of_absent w absent]
  obtain ⟨segment, route, hid, hroute, hhandle⟩ : ∃ segment route, postOf? segment = some id ∧
      Route.ofTarget? r.target = some route ∧
      handle rules (some user) r route = voteOn rules (some user) segment direction := by
    cases direction with
    | like =>
      obtain ⟨segment, hid, hroute⟩ := at_post.route .like (fun _ => rfl) fun _ => rfl
      exact ⟨segment, _, hid, hroute, by rw [handle, post]; rfl⟩
    | dislike =>
      obtain ⟨segment, hid, hroute⟩ := at_post.route .dislike (fun _ => rfl) fun _ => rfl
      exact ⟨segment, _, hid, hroute, by rw [handle, post]; rfl⟩
  have hvote : voteOn rules (some user) segment direction =
      (useService (Posts.requireExisting id) >>= fun _ =>
        useService (Voting.vote rules id user.id direction) >>= fun receipt =>
          pure (.data (receiptView receipt))) := pathId_bind hid _
  refine run_respond_of_fault w rules short (.vote user.id id direction) hoptions hroute ?_ hfails
  rw [huser, hhandle, hvote, useService_bind_useService]
  exact useService_return_run _ _

/-- The vote of a caller who is known is shown. -/
theorem run_respond_of_showVote (get : r.method = .get) (at_post : r.IsAt id "/vote") :
    ∃ user, w.run (respond rules r) =
      (dress r (.data (voteView id (w.tally.voteOf id user))), w) := by
  obtain ⟨user, huser⟩ := authenticated.caller w
  obtain ⟨segment, hid, hroute⟩ := at_post.route .vote (fun _ => rfl) fun _ => rfl
  have hoptions : r.method ≠ .options := get.trans_ne (by decide)
  have hhandler : w.run (handle rules (callerIn w r) r (.vote segment)).run =
      (.ok (.data (voteView id (w.tally.voteOf id user.id))), w) := by
    have hshow : handle rules (some user) r (.vote segment) =
        (useService (Voting.voteOf rules id user.id) >>= fun vote =>
          pure (.data (voteView id vote))) := by
      rw [handle, get]
      exact pathId_bind hid _
    rw [huser, hshow]
    exact run_useService_bind (runService_voteOf w rules id user.id) _
  exact ⟨user.id, run_respond_of_handler w rules short hoptions hroute hhandler⟩

end world

end Forum.Http
