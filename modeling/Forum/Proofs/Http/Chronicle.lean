import Mathlib
import Forum.Proofs.Http.Agreement
import Forum.Proofs.Http.Client

/-!
# What a history tells of the posts

The answers that a server has given since it started with empty stores tell which posts it has.
`Chronicle` is the invariant: the rows of the posts are the posts that have been created and not
deleted, in the order of their creation, and that is the order of their identifiers, because every
new identifier is above all that occur in earlier answers. Each exchange tells of at most one
change, and of the one that was made.
-/

namespace Forum.Http

open Identifier (Generator)

/-- What an exchange tells: the post that it has created, the identifier that it has given to a new
post or user, and the post that it has deleted. -/
structure Exchange.Tells (e : Exchange) (article : Option Article) (id gone : Option Int64) :
    Prop where
  /-- The post that is shown as a new one. -/
  created : e.created? = article
  /-- The identifier that is shown as a new one. -/
  issued : e.issued? = id
  /-- The post whose deletion is confirmed. -/
  deleted : e.deleted? = gone
  /-- A post that was written is shown. -/
  shown : e.Creates → article.isSome

/-- What an exchange tells of the world, and what it has made of it. -/
inductive Told (w : World) (e : Exchange) (w' : World) : Prop
  /-- It tells nothing, and the posts are as they were. -/
  | nothing (tells : e.Tells none none none) (posts : w'.tables.posts = w.tables.posts)
  /-- It tells of a new user. -/
  | entered {id : Int64} (tells : e.Tells none (some id) none)
    (drawn : w.generator.Outcome (.ok id) w'.generator) (posts : w'.tables.posts = w.tables.posts)
  /-- It tells of a new post. -/
  | wrote {row : Post} (tells : e.Tells (some (.ofPost row)) (some row.id) none)
    (drawn : w.generator.Outcome (.ok row.id) w'.generator)
    (posts : w'.tables.posts = w.tables.posts ++ [row])
  /-- It tells of a post that was deleted. -/
  | deleted {row : Post} (tells : e.Tells none none (some row.id)) (found : row ∈ w.tables.posts)
    (posts : w'.tables.posts = w.tables.posts.filter (·.id ≠ row.id))

/-! ## One exchange -/

section exchange

variable {r : Request} {response : Response}

/-- A request that neither writes nor deletes anything with success tells nothing. -/
theorem tells_nothing_of_vain
    (vain : r.method = .post ∨ r.method = .delete → ¬ response.IsSuccess) :
    Exchange.Tells ⟨r, response⟩ none none none where
  created := by
    rw [Exchange.created?]
    split
    · next h => rw [Response.article?, result?_of_not_isSuccess (vain (.inl h.1)), Option.bind_none]
    · rfl
  issued := by
    rw [Exchange.issued?]
    split
    · next h =>
      rw [Response.id?, result?_of_not_isSuccess (vain (.inl h.1)), Option.bind_none,
        Option.bind_none]
    · rfl
  deleted := if_neg fun h => vain (.inr h.1) h.2
  shown h := absurd h.2.2 (vain (.inl h.1))

/-- The path of a vote is not that of the posts or of the users. -/
theorem path_ne_of_isAt {id : Int64} {below : String} (h : r.IsAt id below) :
    r.target.path ≠ Route.posts.path ∧ r.target.path ≠ Route.users.path := by
  obtain ⟨segment, hpath, -⟩ := h
  have hlength := congrArg List.length hpath
  have hposts : Route.posts.path.length = 10 := rfl
  have husers : Route.users.path.length = 10 := rfl
  have hstart : "/api/posts/".toList.length = 11 := rfl
  rw [List.length_append, List.length_append, hstart] at hlength
  constructor
  · intro same
    rw [same] at hlength
    omega
  · intro same
    rw [same] at hlength
    omega

/-- A request for a new user tells of the user. -/
theorem tells_entered (method : r.method = .post) (path : r.target.path = Route.users.path)
    (row : User) :
    Exchange.Tells ⟨r, dress r (.data (newUserView row))⟩ none (some row.id) none where
  created := if_neg fun h => absurd (h.2.symm.trans path) (by decide)
  issued := by
    have hhead : r.method ≠ .head := method.trans_ne (by decide)
    have hid : (newUserView row).member? "id" = some (idView row.id) := rfl
    rw [Exchange.issued?, if_pos ⟨method, .inr path⟩, Response.id?, result?_dress hhead,
      Option.bind_some, hid, Option.bind_some, readId?_idView]
  deleted := if_neg fun h => absurd (h.1.symm.trans method) (by decide)
  shown h := absurd (h.2.1.symm.trans path) (by decide)

/-- A request for a new post tells of the post. -/
theorem tells_wrote (method : r.method = .post) (path : r.target.path = Route.posts.path)
    (row : Post) : Exchange.Tells ⟨r, dress r (.data (postView row 0 none))⟩ (some (.ofPost row))
      (some row.id) none := by
  have hhead : r.method ≠ .head := method.trans_ne (by decide)
  constructor
  case created =>
    rw [Exchange.created?, if_pos ⟨method, path⟩]
    exact article?_dress hhead row 0 none
  case issued =>
    rw [Exchange.issued?, if_pos ⟨method, .inl path⟩, Response.id?, result?_dress hhead,
      Option.bind_some, member?_id_postView, Option.bind_some, readId?_idView]
  case deleted => exact if_neg fun h => absurd (h.1.symm.trans method) (by decide)
  case shown => exact fun _ => rfl

/-- A request to delete a post tells that it is gone. -/
theorem tells_deleted {id : Int64} (method : r.method = .delete) (at_post : r.IsAt id "") :
    Exchange.Tells ⟨r, dress r (.empty 204)⟩ none none (some id) where
  created := if_neg fun h => absurd (h.1.symm.trans method) (by decide)
  issued := if_neg fun h => absurd (h.1.symm.trans method) (by decide)
  deleted := by
    have hsuccess : (dress r (.empty 204)).IsSuccess := by
      rw [Response.IsSuccess, status_dress]
      exact ⟨by decide, by decide⟩
    rw [Exchange.deleted?, if_pos ⟨method, hsuccess⟩]
    exact Request.post?_eq_some_iff.2 at_post
  shown h := absurd (h.1.symm.trans method) (by decide)

/-- A request to vote tells nothing of the posts. -/
theorem tells_voted {id : Int64} {below : String} (method : r.method = .post)
    (at_post : r.IsAt id below) : Exchange.Tells ⟨r, response⟩ none none none where
  created := if_neg fun h => (path_ne_of_isAt at_post).1 h.2
  issued := if_neg fun h => h.2.elim (path_ne_of_isAt at_post).1 (path_ne_of_isAt at_post).2
  deleted := if_neg fun h => absurd (h.1.symm.trans method) (by decide)
  shown h := absurd h.2.1 (path_ne_of_isAt at_post).1

/-- What a request has done is what its answer tells. -/
theorem told_of_did {w w' : World} (h : Did r w (response, w')) : Told w ⟨r, response⟩ w' := by
  cases h with
  | nothing idle vain => exact .nothing (tells_nothing_of_vain vain) (by rw [idle.tables])
  | deed asked known done =>
    cases done with
    | entered clock drawn row same =>
      obtain ⟨method, path⟩ := asked
      exact .entered (tells_entered method path row) (same ▸ drawn) rfl
    | wrote clock drawn row same new =>
      obtain ⟨method, path, -⟩ := asked
      exact .wrote (tells_wrote method path row) (same ▸ drawn) rfl
    | deleted row found =>
      obtain ⟨method, at_post, -⟩ := asked
      exact .deleted (tells_deleted method at_post) found rfl
    | voted found decided =>
      obtain ⟨method, at_post, -⟩ := asked
      exact .nothing (tells_voted method at_post) rfl

end exchange

/-! ## A whole history -/

/-- Whether an exchange has given or taken an identifier. -/
def Exchange.Mentions (e : Exchange) (id : Int64) : Prop :=
  e.issued? = some id ∨ e.deleted? = some id

/-- It is the one that it tells of. -/
theorem Exchange.Tells.mentions_iff {e : Exchange} {article : Option Article}
    {id gone : Option Int64} (h : e.Tells article id gone) (other : Int64) :
    e.Mentions other ↔ id = some other ∨ gone = some other := by
  rw [← h.issued, ← h.deleted]
  exact Iff.rfl

/-- A post that was written is shown in the answer. -/
theorem Told.shown {w w' : World} {e : Exchange} (h : Told w e w') (creates : e.Creates) :
    e.created?.isSome := by
  cases h with
  | nothing tells | entered tells | wrote tells | deleted tells =>
    rw [tells.created]
    exact tells.shown creates

/-- How a history and the world that it has left belong together. -/
structure Chronicle (history : List Exchange) (w : World) : Prop where
  /-- The stores agree. -/
  agreement : w.Agreement
  /-- The authors of the posts are users. -/
  authors : ∀ row ∈ w.tables.posts, w.tables.HasUser row.author
  /-- The identifiers of the posts rise. -/
  rising : (w.tables.posts.map (·.id)).Pairwise (· < ·)
  /-- The posts are those that have been created and not deleted, in the order of creation. -/
  rows : w.tables.posts.map Article.ofPost = living history
  /-- No identifier that has occurred is above the floor of the generator. -/
  known : ∀ e ∈ history, ∀ id, e.Mentions id → id.toInt ≤ w.generator.floor
  /-- A new identifier is above all that have occurred. -/
  fresh : history.Pairwise fun e f => ∀ id new, e.Mentions id → f.issued? = some new → id < new
  /-- A post that was written is shown in the answer. -/
  shown : ∀ e ∈ history, e.Creates → e.created?.isSome

/-- The floor of the generator does not fall. -/
theorem Leaves.floor_le {w w' : World} (h : Leaves w w') (sound : w.generator.Sound) :
    w.generator.floor ≤ w'.generator.floor := by
  have hdrawn : ∀ {id : Int64} {g : Generator}, w.generator.Outcome (.ok id) g →
      w.generator.floor ≤ g.floor := by
    intro id g drawn
    obtain ⟨hlt, hfloor⟩ := sound.floor_lt drawn
    exact hfloor ▸ hlt.le
  cases h with
  | kept | deleted | voted => exact le_refl _
  | drew clock drawn => exact hdrawn drawn
  | entered clock drawn => exact hdrawn drawn
  | wrote clock drawn => exact hdrawn drawn

/-- Users stay, and those who write are users. -/
theorem Leaves.authors {w w' : World} (h : Leaves w w')
    (authors : ∀ row ∈ w.tables.posts, w.tables.HasUser row.author) :
    ∀ row ∈ w'.tables.posts, w'.tables.HasUser row.author := by
  cases h with
  | kept | drew | voted => exact authors
  | entered clock drawn new =>
    intro row hrow
    obtain ⟨user, huser, hid⟩ := authors row hrow
    exact ⟨user, List.mem_append_left _ huser, hid⟩
  | wrote clock drawn new same author =>
    intro row hrow
    rcases List.mem_append.1 hrow with hold | hnew
    · exact authors row hold
    · rw [List.mem_singleton.1 hnew]
      exact author
  | deleted gone => exact fun row hrow => authors row (List.mem_of_mem_filter hrow)

namespace Chronicle

variable {history : List Exchange} {w : World} (h : Chronicle history w)

include h

/-- No post is above the floor of the generator. -/
theorem le_floor {row : Post} (found : row ∈ w.tables.posts) :
    row.id.toInt ≤ w.generator.floor :=
  (h.agreement.issued row.id
    (List.mem_append_right _ (List.mem_map.2 ⟨row, found, rfl⟩))).2

/-- There are fewer posts than identifiers: where there is one, there is its author. -/
theorem length_posts_lt : w.tables.posts.length < 2 ^ 63 := by
  cases hposts : w.tables.posts with
  | nil => decide
  | cons row rows =>
    have hfound : row ∈ w.tables.posts := hposts ▸ List.mem_cons_self
    rw [← hposts]
    exact h.agreement.length_posts_lt (h.authors row hfound)

/-- A new identifier is above all that have occurred. -/
theorem lt_of_drawn {id : Int64} {g : Generator} (drawn : w.generator.Outcome (.ok id) g)
    {e : Exchange} (he : e ∈ history) {old : Int64} (mentions : e.Mentions old) : old < id := by
  have hold := h.known e he old mentions
  have hnew := (h.agreement.sound.floor_lt drawn).1
  exact Int64.lt_iff_toInt_lt.2 (by omega)

/-- What the rows of the posts are after one more exchange. -/
theorem rows_concat {e : Exchange} {w' : World} (told : Told w e w') :
    (w'.tables.posts.map (·.id)).Pairwise (· < ·) ∧
      w'.tables.posts.map Article.ofPost = living (history ++ [e]) := by
  cases told with
  | nothing tells posts =>
    rw [posts, living_concat_of_silent history tells.created tells.deleted]
    exact ⟨h.rising, h.rows⟩
  | entered tells drawn posts =>
    rw [posts, living_concat_of_silent history tells.created tells.deleted]
    exact ⟨h.rising, h.rows⟩
  | @wrote row tells drawn posts =>
    have hnew : (Article.ofPost row).id ∉ history.filterMap Exchange.deleted? := by
      intro hmem
      obtain ⟨f, hf, hdeleted⟩ := List.mem_filterMap.1 hmem
      exact Int64.lt_irrefl (h.lt_of_drawn drawn hf (.inr hdeleted))
    have hlast : ∀ id ∈ w.tables.posts.map (·.id), id < row.id := by
      intro id hid
      obtain ⟨old, hold, rfl⟩ := List.mem_map.1 hid
      have hle := h.le_floor hold
      have hlt := (h.agreement.sound.floor_lt drawn).1
      exact Int64.lt_iff_toInt_lt.2 (by omega)
    rw [posts, living_concat_of_created history tells.created tells.deleted hnew, List.map_append,
      List.map_append, h.rows]
    refine ⟨List.pairwise_append.2 ⟨h.rising, List.pairwise_singleton _ _, ?_⟩, rfl⟩
    intro id hid new hmem
    rw [List.mem_singleton.1 hmem]
    exact hlast id hid
  | @deleted row tells found posts =>
    have hfilter : (w.tables.posts.filter (·.id ≠ row.id)).map Article.ofPost =
        (w.tables.posts.map Article.ofPost).filter (·.id ≠ row.id) := by
      rw [List.filter_map]
      rfl
    rw [posts, living_concat_of_deleted history tells.created tells.deleted, ← h.rows, hfilter]
    exact ⟨h.rising.sublist (List.filter_sublist.map _), rfl⟩

/-- What is known of identifiers after one more exchange. -/
theorem known_concat {e : Exchange} {w' : World} (told : Told w e w')
    (floor : w.generator.floor ≤ w'.generator.floor) :
    (∀ f ∈ history ++ [e], ∀ id, f.Mentions id → id.toInt ≤ w'.generator.floor) ∧
      ∀ f ∈ history, ∀ id new, f.Mentions id → e.issued? = some new → id < new := by
  have hdrawn : ∀ {id : Int64}, w.generator.Outcome (.ok id) w'.generator →
      id.toInt ≤ w'.generator.floor :=
    fun drawn => (h.agreement.sound.floor_lt drawn).2.ge
  have hlast : (∀ id, e.Mentions id → id.toInt ≤ w'.generator.floor) ∧
      ∀ new, e.issued? = some new → w.generator.Outcome (.ok new) w'.generator := by
    cases told with
    | nothing tells posts =>
      refine ⟨fun id mentions => ?_, fun new hnew => ?_⟩
      · exact ((tells.mentions_iff id).1 mentions).elim nofun nofun
      · cases tells.issued.symm.trans hnew
    | entered tells drawn posts =>
      refine ⟨fun id mentions => ?_, fun new hnew => ?_⟩
      · have hsame := ((tells.mentions_iff id).1 mentions).resolve_right nofun
        exact Option.some.inj hsame ▸ hdrawn drawn
      · cases tells.issued.symm.trans hnew
        exact drawn
    | wrote tells drawn posts =>
      refine ⟨fun id mentions => ?_, fun new hnew => ?_⟩
      · have hsame := ((tells.mentions_iff id).1 mentions).resolve_right nofun
        exact Option.some.inj hsame ▸ hdrawn drawn
      · cases tells.issued.symm.trans hnew
        exact drawn
    | deleted tells found posts =>
      refine ⟨fun id mentions => ?_, fun new hnew => ?_⟩
      · have hsame := ((tells.mentions_iff id).1 mentions).resolve_left nofun
        exact Option.some.inj hsame ▸ (h.le_floor found).trans floor
      · cases tells.issued.symm.trans hnew
  refine ⟨fun f hf id mentions => ?_, fun f hf id new mentions hnew => ?_⟩
  · rcases List.mem_append.1 hf with hold | hnew
    · exact (h.known f hold id mentions).trans floor
    · rw [List.mem_singleton.1 hnew] at mentions
      exact hlast.1 id mentions
  · exact h.lt_of_drawn (hlast.2 new hnew) hf mentions

/-- One more exchange is told and done. -/
theorem concat {e : Exchange} {w' : World} (told : Told w e w') (leaves : Leaves w w') :
    Chronicle (history ++ [e]) w' := by
  obtain ⟨hrising, hrows⟩ := h.rows_concat told
  obtain ⟨hknown, hfresh⟩ := h.known_concat told (leaves.floor_le h.agreement.sound)
  refine ⟨h.agreement.leaves leaves, leaves.authors h.authors, hrising, hrows, hknown, ?_, ?_⟩
  · refine List.pairwise_append.2 ⟨h.fresh, List.pairwise_singleton _ _, ?_⟩
    intro f hf g hg
    rw [List.mem_singleton.1 hg]
    exact hfresh f hf
  · intro f hf
    rcases List.mem_append.1 hf with hold | hnew
    · exact h.shown f hold
    · rw [List.mem_singleton.1 hnew]
      exact told.shown

/-- A time does not matter. -/
theorem at_time (now : Timestamp) : Chronicle history { w with now := now } :=
  ⟨h.agreement.at_time now, h.authors, h.rising, h.rows, h.known, h.fresh, h.shown⟩

/-- Requests one after another are told and done. -/
theorem session (rules : Rules) (arrivals : List Arrival) :
    Chronicle (history ++ exchanges rules w arrivals) (session rules w arrivals) := by
  induction arrivals generalizing history w with
  | nil =>
    rw [exchanges, List.append_nil]
    exact h
  | cons a rest ih =>
    have hearly := h.at_time a.now
    have hstep := hearly.concat (told_of_did (did_run rules _ a.request))
      (leaves_respond rules _ a.request)
    rw [exchanges, List.append_cons]
    exact ih hstep

end Chronicle

/-- Nothing has been told of a server with empty stores. -/
theorem chronicle_start {w : World} (htables : w.tables = ⟨[], []⟩) (htally : w.tally = .empty)
    (hsound : w.generator.Sound) : Chronicle [] w := by
  have hposts : w.tables.posts = [] := by rw [htables]
  refine ⟨World.agreement_start htables htally hsound, ?_, ?_, ?_,
    List.forall_mem_nil _, .nil, List.forall_mem_nil _⟩
  · rw [hposts]
    exact List.forall_mem_nil _
  · rw [hposts]
    exact .nil
  · rw [hposts]
    rfl

end Forum.Http
