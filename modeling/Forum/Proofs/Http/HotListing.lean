import Mathlib
import Forum.Proofs.Http.Answers
import Forum.Proofs.Http.Client
import Forum.Proofs.Service.Pages
import Forum.Proofs.Service.Records

/-!
# The hot listing, end to end

What a caller reads in the answer to a request for a page of the hot listing. The ranking says which
posts are on the page; their rows are looked up together and come back in any order; they are put
into the order of the page, and then each gets its score. The ranking and the table need not agree:
a post that is ranked and has no row is left out, and no other one is put in its place. What is
shown stands in the order of the ranking, on a page and from one page to the next.
-/

namespace Forum

/-- Sources of listings that answer the rows of posts as well, in any order, and look up users
without changing anything. -/
structure Listing.RowSources {σ : Type} (answer : (e : Effect) → σ → Except Fault e.Reply × σ)
    (s : σ) (tally : Engagement.Tally) (posts : List Post) : Prop
    extends Sources answer s tally (posts.map (·.id)) where
  /-- The rows of the posts with given identifiers are answered, in some order. -/
  rows : ∀ ids, ∃ found, answer (.rows (.findPosts ids)) s = (.ok found, s) ∧
    found.Perm (posts.filter (·.id ∈ ids))
  /-- Looking up a user changes nothing, whatever is answered. -/
  users : ∀ key, ∃ reply, answer (.rows (.findUser key)) s = (reply, s)

namespace Http

/-- Whether a post is shown above another one: its score is higher, or it is the same and the
identifier is greater. -/
def Listed.Above (a b : Listed) : Prop :=
  b.score < a.score ∨ a.score = b.score ∧ b.article.id < a.article.id

/-- What is shown of the posts of a page. -/
structure Shows (tally : Engagement.Tally) (posts : List Post) (ids : List Int64)
    (listed : List Listed) : Prop where
  /-- The posts of the page that have a row, in their order. -/
  shown : listed.map (·.article.id) = ids.filter (· ∈ posts.map (·.id))
  /-- No post is shown twice. -/
  once : (listed.map (·.article.id)).Nodup
  /-- A post is shown as its row has it. -/
  rows : ∀ a ∈ listed, ∃ row ∈ posts, a.article = .ofPost row
  /-- It is shown with its score. -/
  scores : ∀ a ∈ listed, tally.scoreOf a.article.id = some a.score

section shows

variable {tally : Engagement.Tally} {posts : List Post} {ids : List Int64} {listed : List Listed}

/-- A post that is shown is on the page. -/
theorem Shows.mem (h : Shows tally posts ids listed) {a : Listed} (ha : a ∈ listed) :
    a.article.id ∈ ids := by
  have hmem : a.article.id ∈ ids.filter (· ∈ posts.map (·.id)) := by
    rw [← h.shown]
    exact List.mem_map.2 ⟨a, ha, rfl⟩
  exact List.mem_of_mem_filter hmem

/-- What stands above in the ranking is shown above. -/
theorem Shows.above_of_above {others : List Int64} {listed' : List Listed}
    (h : Shows tally posts ids listed) (h' : Shows tally posts others listed') {a b : Listed}
    (ha : a ∈ listed) (hb : b ∈ listed') (hab : tally.Above a.article.id b.article.id) :
    a.Above b := by
  obtain ⟨x, y, hx, hy, horder⟩ := hab
  obtain rfl : x = a.score := Option.some.inj (hx.symm.trans (h.scores a ha))
  obtain rfl : y = b.score := Option.some.inj (hy.symm.trans (h'.scores b hb))
  exact horder

/-- What is shown of posts in the order of the ranking is shown in that order. -/
theorem Shows.pairwise (h : Shows tally posts ids listed) (sorted : ids.Pairwise tally.Above) :
    listed.Pairwise Listed.Above := by
  have hsorted : (listed.map (·.article.id)).Pairwise tally.Above := by
    rw [h.shown]
    exact sorted.sublist List.filter_sublist
  exact (List.pairwise_map.1 hsorted).imp_of_mem fun ha hb hab => h.above_of_above h ha hb hab

/-- Rows in the order of the page, each with its score, are what is shown of posts that are
registered. -/
theorem shows_inOrder (registered : ∀ id ∈ ids, (tally.scoreOf id).isSome) (distinct : ids.Nodup)
    {found : List Post} (hfound : found.Perm (posts.filter (·.id ∈ ids))) :
    Shows tally posts ids ((Records.inOrder ids found).map fun post =>
      ⟨.ofPost post, (tally.scoreOf post.id).getD 0⟩) := by
  have hids : (Records.inOrder ids found).map (·.id) = ids.filter (· ∈ posts.map (·.id)) := by
    rw [Records.map_id_inOrder distinct]
    refine List.filter_congr fun id hid => decide_eq_decide.2 ?_
    rw [(hfound.map (·.id)).mem_iff, List.mem_map, List.mem_map]
    constructor
    · rintro ⟨row, hrow, hsame⟩
      exact ⟨row, List.mem_of_mem_filter hrow, hsame⟩
    · rintro ⟨row, hrow, rfl⟩
      exact ⟨row, List.mem_filter.2 ⟨hrow, decide_eq_true hid⟩, rfl⟩
  have hshown : ((Records.inOrder ids found).map fun post =>
      (⟨.ofPost post, (tally.scoreOf post.id).getD 0⟩ : Listed)).map (·.article.id) =
        ids.filter (· ∈ posts.map (·.id)) := by
    rw [List.map_map]
    exact hids
  refine ⟨hshown, hshown ▸ distinct.sublist List.filter_sublist, ?_, ?_⟩
  · intro a ha
    obtain ⟨row, hrow, rfl⟩ := List.mem_map.1 ha
    exact ⟨row, List.mem_of_mem_filter (hfound.subset (Records.inOrder_subset ids found hrow)), rfl⟩
  · intro a ha
    obtain ⟨row, hrow, rfl⟩ := List.mem_map.1 ha
    have hid : row.id ∈ ids := by
      have hmem : row.id ∈ (Records.inOrder ids found).map (·.id) := List.mem_map.2 ⟨row, hrow, rfl⟩
      rw [hids] at hmem
      exact List.mem_of_mem_filter hmem
    obtain ⟨score, hscore⟩ := Option.isSome_iff_exists.1 (registered row.id hid)
    have hsame : tally.scoreOf row.id = some ((tally.scoreOf row.id).getD 0) := by
      rw [hscore]
      rfl
    exact hsame

end shows

/-- Whether a request asks for a page of the hot listing. -/
structure Request.AsksHot (r : Request) (request : Page.Request) : Prop where
  /-- It asks to show something. -/
  method : r.method = .get
  /-- It is for the posts. -/
  path : r.target.path = Route.posts.path
  /-- Its query can be read. -/
  query : pageRequest? r.target.query = some request
  /-- The query asks for the order by score. -/
  order : ListOrder.ofText request.order = .hot
  /-- No body is declared that is too long. -/
  short : ¬ (declaredLength? r).any (maxBodyBytes < ·)

variable {σ : Type} {answer : (e : Effect) → σ → Except Fault e.Reply × σ} {s : σ}

/-- Such a request asks for a page of posts. -/
theorem Request.AsksHot.asksPage {r : Request} {request : Page.Request} (h : r.AsksHot request) :
    r.AsksPage request :=
  ⟨h.method, h.path, h.query, h.short⟩

/-- A request for a page of the hot listing is answered with the posts of that page, once their rows
and scores have been looked up. -/
theorem run_respond_of_asksHot {tally : Engagement.Tally} {posts : List Post}
    (sources : Listing.RowSources answer s tally posts) (rules : Rules) {r : Request}
    {request : Page.Request} (h : r.AsksHot request) {page : Page} {views : List Posts.View}
    (hpage : (Listing.list rules request).run.run answer s = (.ok page, s))
    (hviews : (Posts.hydrate rules page.ids).run.run answer s = (.ok views, s)) :
    ∃ response, (respond rules r).run answer s = (response, s) ∧
      response.listed? = some (views.map .ofView) := by
  have hcaller : ((caller r).run answer s).2 = s := by
    refine (asks_caller fun token _ => ?_).run_snd_of_kept
    obtain ⟨reply, hreply⟩ := sources.users (.byToken token)
    rw [hreply]
  have hhead : r.method ≠ .head := h.method.trans_ne (by decide)
  exact ⟨_, run_respond_of_asksPage rules h.asksPage hcaller hpage hviews,
    listed?_dress hhead page views⟩

/-- The answer to a request for a page of the hot listing, whatever page and size it asks for. The
posts that are read in it are those that lie within its bounds in the ranking and have a row, in
that order, each once, as its row has it and with its score. So the scores on a page do not rise,
and among equal ones the identifiers fall, and the same goes for the posts of a page and those of a
later one of the same size, because no ranking in memory has more posts than the greatest offset. -/
theorem hot_listing_shown {tally : Engagement.Tally} {posts : List Post}
    (sources : Listing.RowSources answer s tally posts) (settings : Rules)
    (preferred largest : UInt64) :
    let rules := { settings with sizes := .ofWords preferred largest }
    ∃ shown : Page.Request → List Listed,
      (∀ request : Page.Request,
        let bounds := request.resolve rules.sizes
        Shows tally posts ((tally.ranking.drop bounds.offset).take bounds.size) (shown request) ∧
        (shown request).Pairwise Listed.Above ∧
        ∀ r : Request, r.AsksHot request → ∃ response,
          (respond rules r).run answer s = (response, s) ∧
          response.listed? = some (shown request)) ∧
      (tally.cardinality < 2 ^ 63 → ∀ request later : Page.Request,
        (request.resolve rules.sizes).size = (later.resolve rules.sizes).size →
        (request.resolve rules.sizes).page < (later.resolve rules.sizes).page →
        ∀ a ∈ shown request, ∀ b ∈ shown later, a.Above b) := by
  intro rules
  let slice (request : Page.Request) : List Int64 :=
    let bounds := request.resolve rules.sizes
    (tally.ranking.drop bounds.offset).take bounds.size
  choose found hanswered hperm using fun request => sources.rows (slice request)
  have hslice : ∀ request, (slice request).Sublist tally.ranking := fun request =>
    (List.take_sublist _ _).trans (List.drop_sublist _ _)
  have hshows : ∀ request, Shows tally posts (slice request)
      ((Records.inOrder (slice request) (found request)).map fun post =>
        ⟨.ofPost post, (tally.scoreOf post.id).getD 0⟩) := fun request =>
    shows_inOrder
      (fun id hid => Engagement.Tally.mem_ranking_iff.1 ((hslice request).subset hid))
      (tally.nodup_ranking.sublist (hslice request)) (hperm request)
  refine ⟨_, fun request => ⟨hshows request, ?_, fun r h => ?_⟩,
    fun few request later hsize hpage => ?_⟩
  · exact (hshows request).pairwise (tally.pairwise_ranking.sublist (hslice request))
  · have horder : (request.resolve rules.sizes).order = .hot := h.order
    have hlist := sources.run_list rules request
    rw [horder, Listing.within_eq_slice, Listing.length_full_hot] at hlist
    obtain ⟨response, hrun, hlisted⟩ := run_respond_of_asksHot sources rules h hlist
      (sources.run_hydrate rules (hanswered request))
    rw [List.map_map] at hlisted
    exact ⟨response, hrun, hlisted⟩
  · intro a ha b hb
    have hfew : tally.ranking.length < 2 ^ 63 := by
      rwa [tally.ranking_perm.length_eq, List.length_map, tally.length_ranked]
    have hexact : ∀ request, slice request =
        (tally.ranking.drop (((request.resolve rules.sizes).page - 1) *
          (request.resolve rules.sizes).size)).take (request.resolve rules.sizes).size :=
      fun request => Listing.slice_resolve _ hfew request rules.sizes
    have hfirst : 0 < (request.resolve rules.sizes).page := Page.page_resolve_pos request _
    have hmem := (hshows request).mem ha
    have hmem' := (hshows later).mem hb
    rw [hexact] at hmem hmem'
    rw [← hsize] at hmem'
    refine (hshows request).above_of_above (hshows later) ha hb ?_
    exact Listing.rel_of_pages _ tally.pairwise_ranking (by omega) hmem hmem'

/-- The tally and the tables of a world are such sources. -/
theorem rowSources (w : World) :
    Listing.RowSources World.answer w w.tally w.tables.posts where
  toSources := w.sources
  rows _ := ⟨_, rfl, List.Perm.refl _⟩
  users _ := ⟨_, rfl⟩

/-- Of the first two posts of the ranking only one has a row. The answer shows that one alone, as
its row has it and with its score. -/
theorem hot_listing_shown_of_two :
    let w := World.uneven
    let rules : Rules := ⟨true, 2000, 8, .ofWords 20 100⟩
    let r : Request := ⟨.get, ⟨"/api/posts".toList, some "order=hot&limit=2".toList⟩, [], ""⟩
    let request : Page.Request := ⟨none, some 2, some "hot"⟩
    Listing.RowSources World.answer w w.tally w.tables.posts ∧ r.AsksHot request ∧
      ∃ response, w.run (respond rules r) = (response, w) ∧
        response.listed? = some [⟨⟨7, 1, "First", "", "2025-06-01T12:00:00+00:00"⟩, 1⟩] := by
  intro w rules r request
  have hranking : w.tally.ranking = [7, 5, 8] := by cbv
  have hbounds : request.resolve rules.sizes = ⟨1, 2, 0, .hot⟩ := by decide +kernel
  have hasks : r.AsksHot request :=
    ⟨rfl, rfl, by decide +kernel, by decide +kernel, by decide +kernel⟩
  obtain ⟨shown, hshown, -⟩ := hot_listing_shown (rowSources w) rules 20 100
  obtain ⟨hshows, -, hrun⟩ := hshown request
  obtain ⟨response, hresponse, hlisted⟩ := hrun r hasks
  refine ⟨rowSources w, hasks, response, hresponse, hlisted.trans (congrArg some ?_)⟩
  have hids : (shown request).map (·.article.id) = [7] := by
    have hslice := hshows.shown
    rw [hbounds, hranking] at hslice
    exact hslice
  obtain ⟨a, hone, hid⟩ := List.map_eq_singleton_iff.1 hids
  have hmem : a ∈ shown request := by
    rw [hone]
    exact List.mem_singleton_self a
  have hscore : some 1 = some a.score := by
    have hlike : w.tally.scoreOf 7 = some 1 := by cbv
    rw [← hlike, ← hid]
    exact hshows.scores a hmem
  have harticle : a.article = ⟨7, 1, "First", "", "2025-06-01T12:00:00+00:00"⟩ := by
    have hrows : ∀ row ∈ w.tables.posts, row.id = 7 →
        Article.ofPost row = ⟨7, 1, "First", "", "2025-06-01T12:00:00+00:00"⟩ := by
      decide +kernel
    obtain ⟨row, hrow, hshown⟩ := hshows.rows a hmem
    rw [hshown]
    exact hrows row hrow ((congrArg Article.id hshown).symm.trans hid)
  rw [hone, ← harticle, Option.some.inj hscore]

end Http

end Forum
