import Mathlib
import Forum.Proofs.Http.NewestListing

/-!
# The life of a post

A post that was written is shown as it was written until it is deleted, and never after that. As
long as no exchange has deleted it, its row is the one that was entered. When one has, there is no
row, no score and no vote for its identifier, every resource below it is answered accordingly, and
the identifier is never given to anything else. A request that declares too long a body is refused
before anything is looked up, in either case.
-/

namespace Forum.Http

/-- How requests are answered that are about a post which is no more. -/
structure Gone (rules : Rules) (w : World) (id : Int64) : Prop where
  /-- The post is not shown. -/
  shown : ∀ a : Arrival, a.request.method = .get → a.request.IsAt id "" → ¬ a.request.TooLong →
    (exchange rules w a).response.status = 404
  /-- Nobody can delete it again. -/
  deleted : ∀ a : Arrival, a.request.method = .delete → a.request.IsAt id "" →
    a.request.Authenticated w → ¬ a.request.TooLong → (exchange rules w a).response.status = 404
  /-- Nobody can vote on it. -/
  voted : ∀ (a : Arrival) (direction : Direction), a.request.method = .post →
    a.request.IsAt id ("/" ++ direction.name) → a.request.Authenticated w →
    ¬ a.request.TooLong → (exchange rules w a).response.status = 404
  /-- Nobody has a vote on it. -/
  vote : ∀ a : Arrival, a.request.method = .get → a.request.IsAt id "/vote" →
    a.request.Authenticated w → ¬ a.request.TooLong →
    (exchange rules w a).response.vote? = some none
  /-- No page of a listing has it, whatever its order, its number and its size are. -/
  listed : ∀ (a : Arrival) (request : Page.Request), a.request.AsksPage request →
    ∃ articles, (exchange rules w a).response.articles? = some articles ∧
      ∀ article ∈ articles, article.id ≠ id
  /-- No new post or user gets its identifier. -/
  again : ∀ a : Arrival, (exchange rules w a).issued? ≠ some id

namespace Chronicle

variable {history : List Exchange} {w : World} (h : Chronicle history w) (rules : Rules)

include h

/-- A post that has been deleted has no row. -/
theorem absent_of_deleted {id : Int64} {e : Exchange} (he : e ∈ history)
    (deleted : e.deleted? = some id) : ¬ w.tables.HasPost id := by
  rintro ⟨row, hrow, rfl⟩
  have hliving : Article.ofPost row ∈ living history :=
    h.rows ▸ List.mem_map.2 ⟨row, hrow, rfl⟩
  exact ((mem_living_iff history).1 hliving).2 e he deleted

/-- A living post is found under its identifier. -/
theorem find?_of_living {article : Article} (hliving : article ∈ living history) :
    ∃ row, w.tables.posts.find? (·.id = article.id) = some row ∧ .ofPost row = article := by
  obtain ⟨row, hrow, rfl⟩ := List.mem_map.1 (h.rows ▸ hliving)
  refine ⟨row, ?_, rfl⟩
  have hfound : (w.tables.posts.find? (·.id = row.id)).isSome :=
    List.find?_isSome.2 ⟨row, hrow, decide_eq_true rfl⟩
  obtain ⟨row', hrow'⟩ := Option.isSome_iff_exists.1 hfound
  obtain ⟨hmem, hid⟩ := w.tables.hasPost_of_find? hrow'
  have hsame : row' = row := List.inj_on_of_nodup_map h.agreement.nodup_posts hmem hrow hid
  subst hsame
  exact hrow'

/-- A post without a row whose identifier has occurred is gone. -/
theorem gone {id : Int64} {e : Exchange} (he : e ∈ history) (mentions : e.Mentions id)
    (absent : ¬ w.tables.HasPost id) : Gone rules w id := by
  have hnotFound : ∀ r : Request, (dress r (.ofFault (.postNotFound id))).status = 404 :=
    fun r => status_dress r _
  constructor
  case shown =>
    intro a get at_post short
    have hrun := run_respond_of_absent { w with now := a.now } rules short get at_post absent
    rw [exchange, hrun]
    exact hnotFound a.request
  case deleted =>
    intro a delete at_post authenticated short
    have hrun := run_respond_of_delete_absent { w with now := a.now } rules short authenticated
      delete at_post absent
    rw [exchange, hrun]
    exact hnotFound a.request
  case voted =>
    intro a direction post at_post authenticated short
    have hrun := run_respond_of_vote_absent { w with now := a.now } rules short authenticated post
      at_post absent
    rw [exchange, hrun]
    exact hnotFound a.request
  case vote =>
    intro a get at_post authenticated short
    have hhead : a.request.method ≠ .head := get.trans_ne (by decide)
    have hscore : w.tally.scoreOf id = none := by
      rw [← Option.not_isSome_iff_eq_none, h.agreement.registered]
      exact absent
    obtain ⟨user, hrun⟩ := run_respond_of_showVote { w with now := a.now } rules short
      authenticated get at_post
    rw [exchange, hrun]
    dsimp only
    rw [vote?_dress hhead, Engagement.Tally.voteOf_of_none _ _ _ hscore]
  case listed =>
    intro a request asks
    have hhead : a.request.method ≠ .head := asks.method.trans_ne (by decide)
    let now : World := { w with now := a.now }
    have hcaller : (now.run (caller a.request)).2 = now := by rw [run_caller]
    have hrun := run_respond_of_asksPage rules asks hcaller (now.run_list rules request)
      (now.run_hydrate rules _)
    have harticles := congrArg (fun ended => ended.1.articles?) hrun
    refine ⟨_, harticles.trans (articles?_dress hhead _ _), ?_⟩
    intro article harticle
    obtain ⟨v, hv, rfl⟩ := List.mem_map.1 harticle
    obtain ⟨row, hrow, rfl⟩ := List.mem_map.1 hv
    have hfound : row ∈ w.tables.posts :=
      List.mem_of_mem_filter (Records.inOrder_subset _ _ hrow)
    exact fun hid => absent ⟨row, hfound, hid⟩
  case again =>
    intro a hissued
    have hnext : Chronicle (history ++ [exchange rules w a]) _ := h.session rules [a]
    have hfresh := (List.pairwise_append.1 hnext.fresh).2.2 e he _ List.mem_cons_self
    exact Int64.lt_irrefl (hfresh id id mentions hissued)

/-- A post that was created and that no later exchange has deleted is living. -/
theorem mem_living_of_created {before after : List Exchange} {e : Exchange}
    (hsplit : history = before ++ e :: after) {article : Article}
    (created : e.created? = some article)
    (kept : ∀ f ∈ after, f.deleted? ≠ some article.id) : article ∈ living history := by
  obtain ⟨hissued, hnothing⟩ := issued?_of_created? created
  have hmem : e ∈ history := by
    rw [hsplit]
    exact List.mem_append_right _ List.mem_cons_self
  refine (mem_living_iff history).2 ⟨⟨e, hmem, created⟩, fun f hf deleted => ?_⟩
  rw [hsplit, List.mem_append, List.mem_cons] at hf
  rcases hf with hbefore | rfl | hafter
  · -- What was deleted before has a smaller identifier.
    have hfresh := h.fresh
    rw [hsplit] at hfresh
    have hlt := (List.pairwise_append.1 hfresh).2.2 f hbefore e List.mem_cons_self
    exact Int64.lt_irrefl (hlt article.id article.id (.inr deleted) hissued)
  · rw [hnothing] at deleted
    cases deleted
  · exact kept f hafter deleted

end Chronicle

/-- A request that declares too long a body is refused before anything is looked up. -/
theorem status_of_tooLong (rules : Rules) (w : World) {a : Arrival}
    (options : a.request.method ≠ .options) (long : a.request.TooLong) :
    (exchange rules w a).response.status = 413 := by
  have hlong : (declaredLength? a.request).any (maxBodyBytes < ·) := long
  rw [exchange, respond, if_neg options, if_pos hlong]
  exact status_dress a.request _

/-- Any requests one after another, on a server that starts with empty stores, at any times and with
any clock. A successful request to write a post shows the post in its answer. As long as no later
exchange has deleted it, whoever asks for it is shown the same author, title, text and time of
writing. Once one has, the post is gone. All this is about requests that do not declare a body that
is too long; those are refused before anything is looked up. -/
theorem life_of_a_post [Database.Tokens] (layout : Identifier.Layout) (worker : Nat)
    (epoch : String) (reading : Identifier.Clock) (g : Identifier.Generator)
    (clock : Identifier.Clock)
    (hstart : Identifier.Generator.start layout worker epoch reading = .ok (g, clock))
    (now : Timestamp) (rules : Rules) (arrivals : List Arrival) :
    let start : World := ⟨⟨[], []⟩, .empty, g, clock, now⟩
    let history := exchanges rules start arrivals
    let w := session rules start arrivals
    (∀ before e after, history = before ++ e :: after → e.Creates →
      ∃ article, e.created? = some article ∧
        ((∀ f ∈ after, f.deleted? ≠ some article.id) →
          ∀ a : Arrival, a.request.method = .get → a.request.IsAt article.id "" →
            ¬ a.request.TooLong → (exchange rules w a).response.article? = some article) ∧
        ((∃ f ∈ after, f.deleted? = some article.id) → Gone rules w article.id)) ∧
    ∀ a : Arrival, a.request.method ≠ .options → a.request.TooLong →
      (exchange rules w a).response.status = 413 := by
  intro start history w
  have hsound : g.Sound := Identifier.Generator.sound_of_start hstart
  have hall : Chronicle history w :=
    (chronicle_start (w := start) rfl rfl hsound).session rules arrivals
  refine ⟨fun before e after hsplit creates => ?_, fun a options long =>
    status_of_tooLong rules w options long⟩
  have hmem : ∀ f, f = e ∨ f ∈ after → f ∈ history := fun f hf => by
    rw [hsplit]
    exact List.mem_append_right _ (List.mem_cons.2 hf)
  obtain ⟨article, created⟩ := Option.isSome_iff_exists.1
    (hall.shown e (hmem e (.inl rfl)) creates)
  refine ⟨article, created, fun kept a get at_post short => ?_, fun deleted => ?_⟩
  · have hhead : a.request.method ≠ .head := get.trans_ne (by decide)
    have hliving := hall.mem_living_of_created hsplit created kept
    obtain ⟨row, hfound, hrow⟩ := hall.find?_of_living hliving
    obtain ⟨score, vote, hrun⟩ := run_respond_of_found { w with now := a.now } rules short get
      at_post hfound
    rw [exchange, hrun]
    dsimp only
    rw [article?_dress hhead, hrow]
  · obtain ⟨f, hf, hdeleted⟩ := deleted
    exact hall.gone rules (hmem f (.inr hf)) (.inr hdeleted)
      (hall.absent_of_deleted (hmem f (.inr hf)) hdeleted)

/-- The author of the post that is written on the first visit is shown it, and once the author has
taken it back it is gone. -/
theorem life_of_a_post_of_first_visit :
    let rules : Rules := ⟨false, 2000, 8, .ofWords 20 100⟩
    let start : World := ⟨⟨[], []⟩, .empty, Identifier.Generator.unused, ⟨[1, 2], 0⟩, .noon⟩
    let visit := World.firstVisit.take 2
    let look : Arrival :=
      ⟨.noon, .get, ⟨"/api/posts/8392704".toList, none⟩, [], ""⟩
    Identifier.Generator.start .standard 1 "1970-01-01T00:00:00Z" ⟨[0, 1, 2], 0⟩ =
        .ok (Identifier.Generator.unused, ⟨[1, 2], 0⟩) ∧
      (exchange rules (session rules start visit) look).response.article? = some firstPost ∧
      Gone rules (session rules start (visit ++ [takeBack])) firstPost.id := by
  intro rules start visit look
  have hstart : Identifier.Generator.start .standard 1 "1970-01-01T00:00:00Z" ⟨[0, 1, 2], 0⟩ =
      .ok (Identifier.Generator.unused, ⟨[1, 2], 0⟩) := rfl
  obtain ⟨signUp, write, hexchanges, -, ⟨creates, created⟩, deleted⟩ := exchanges_of_first_visit
  have hlater : exchanges rules start (visit ++ [takeBack]) =
      [signUp] ++ write :: [exchange rules (session rules start visit) takeBack] := by
    rw [exchanges_append, hexchanges]
    rfl
  have hlives := fun arrivals => life_of_a_post .standard 1 "1970-01-01T00:00:00Z"
    ⟨[0, 1, 2], 0⟩ Identifier.Generator.unused ⟨[1, 2], 0⟩ hstart .noon rules arrivals
  refine ⟨hstart, ?_, ?_⟩
  · obtain ⟨hcreated, -⟩ := hlives visit
    obtain ⟨article, same, hshown, -⟩ := hcreated [signUp] write [] hexchanges creates
    obtain rfl : firstPost = article := Option.some.inj (created.symm.trans same)
    exact hshown (List.forall_mem_nil _) look rfl (Request.post?_eq_some_iff.1 (by decide +kernel))
      Bool.false_ne_true
  · obtain ⟨hcreated, -⟩ := hlives (visit ++ [takeBack])
    obtain ⟨article, same, -, hgone⟩ := hcreated [signUp] write _ hlater creates
    obtain rfl : firstPost = article := Option.some.inj (created.symm.trans same)
    exact hgone ⟨_, List.mem_singleton_self _, deleted⟩

/-- A request for the post of the first visit that brings a body of more than 65536 bytes, as it
declares, is not shown the post, although nobody has deleted it. -/
theorem not_shown_when_too_long :
    let rules : Rules := ⟨false, 2000, 8, .ofWords 20 100⟩
    let start : World := ⟨⟨[], []⟩, .empty, Identifier.Generator.unused, ⟨[1, 2], 0⟩, .noon⟩
    let visit := World.firstVisit.take 2
    let look : Arrival := ⟨.noon, .get, ⟨"/api/posts/8392704".toList, none⟩,
      [("content-length", "65537")], List.replicate 65537 0x78⟩
    let e := exchange rules (session rules start visit) look
    (∃ signUp write, exchanges rules start visit = [signUp, write] ∧ write.Creates ∧
        write.created? = some firstPost) ∧
      look.request.method = .get ∧ look.request.IsAt firstPost.id "" ∧
      e.response.status = 413 ∧ e.response.article? = none := by
  intro rules start visit look e
  obtain ⟨signUp, write, hexchanges, -, ⟨creates, created⟩, -⟩ := exchanges_of_first_visit
  have hpost : look.request.IsAt firstPost.id "" :=
    Request.post?_eq_some_iff.1 (by decide +kernel)
  have hlong : look.request.TooLong := by
    change (declaredLength? look.request).any (maxBodyBytes < ·) = true
    decide +kernel
  have hstatus : e.response.status = 413 :=
    status_of_tooLong rules (session rules start visit) (by decide) hlong
  have hfailed : ¬ e.response.IsSuccess := Response.not_isSuccess (by rw [hstatus]; decide)
  refine ⟨⟨signUp, write, hexchanges, creates, created⟩, rfl, hpost, hstatus, ?_⟩
  rw [Response.article?, result?_of_not_isSuccess hfailed, Option.bind_none]

end Forum.Http
