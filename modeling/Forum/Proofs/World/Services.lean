import Mathlib
import Forum.Identifier.Generator
import Forum.Proofs.Engagement.Ranking
import Forum.Proofs.Engagement.Tally
import Forum.Proofs.Identifier.Increasing
import Forum.Proofs.Service.Programs
import Forum.Proofs.Service.Records
import Forum.Proofs.World.Reading
import Forum.Service.Posts
import Forum.World.State

/-!
# Services in the world

What services answer and leave when nobody comes in between, in a world or in any surroundings that
answer like one.
-/

/-! ## Votes

What a service answers and leaves when nobody comes in between. The engagement store of a single
process answers every call, and a vote is committed against the recorded vote that was just read, so
the first attempt is the last one. -/

namespace Forum

namespace World

variable (w : World)

/-- A call of the engagement store is answered. -/
theorem answer_call (deadline : Nat) (c : Engagement.Call) :
    World.answer (.engagement deadline c) w =
      (.ok (w.tally.answer c).1, { w with tally := (w.tally.answer c).2 }) := rfl

/-- An identifier is issued, or only the clock has moved. -/
theorem answer_freshId_cases :
    (∃ problem clock,
        World.answer .freshId w = (.error (.identifier problem), { w with clock := clock })) ∨
      ∃ id g clock, w.generator.Outcome (.ok id) g ∧
        World.answer .freshId w = (.ok id, { w with generator := g, clock := clock }) := by
  have houtcome := Identifier.Generator.outcome_generate w.generator w.clock
  rw [World.answer, freshId]
  generalize w.generator.generate w.clock = made at houtcome ⊢
  obtain ⟨problem | id, g, clock⟩ := made <;> dsimp only at houtcome ⊢
  · rw [Identifier.Generator.eq_of_failed houtcome]
    exact .inl ⟨problem, clock, rfl⟩
  · exact .inr ⟨id, g, clock, houtcome, rfl⟩

end World

namespace Voting

variable (rules : Rules) (post user : Int64) (requested : Direction) (w : World)

/-- An attempt that is refused against the recorded vote changes nothing. -/
theorem run_attempt_of_refused {fault : Fault}
    (h : Vote.decide post user (w.tally.voteOf post user) requested = .error fault)
    (otherwise : Service Receipt) :
    w.runService (attempt rules post user requested otherwise) = (.error fault, w) := by
  rw [World.runService, World.run, attempt_run, Workflow.run_ask, World.answer_call]
  simp only [Engagement.Tally.answer, afterRead, h, Workflow.run_done]

/-- Any other attempt is recorded on top of it. -/
theorem run_attempt_of_decided {change : Vote.Change}
    (h : Vote.decide post user (w.tally.voteOf post user) requested = .ok change)
    (otherwise : Service Receipt) :
    w.runService (attempt rules post user requested otherwise) =
      (.ok ⟨post, requested, change.delta, (w.tally.entry post).score + change.delta⟩,
        { w with tally := w.tally.put post ((w.tally.entry post).record change) }) := by
  have hchange := Vote.decide_eq_ok h
  have hcommit : w.tally.commitVote change =
      (.committed ((w.tally.entry post).score + change.delta),
        w.tally.put post ((w.tally.entry post).record change)) := by
    have hsame : w.tally.voteOf change.post change.user = change.previous := by rw [hchange]
    rw [Engagement.Tally.commitVote_of_eq _ hsame, hchange]
  rw [World.runService, World.run, attempt_run, Workflow.run_ask, World.answer_call]
  simp only [Engagement.Tally.answer, afterRead, h, Workflow.run_ask, World.answer_call, hcommit,
    afterCommit, Workflow.run_done]

/-- The attempts of a vote end with the first one when it is refused. -/
theorem run_attempts_of_refused {fault : Fault}
    (h : Vote.decide post user (w.tally.voteOf post user) requested = .error fault)
    (retries : Nat) :
    w.runService (attempts rules post user requested retries) = (.error fault, w) := by
  cases retries <;> exact run_attempt_of_refused rules post user requested w h _

/-- So do they when it is not. -/
theorem run_attempts_of_decided {change : Vote.Change}
    (h : Vote.decide post user (w.tally.voteOf post user) requested = .ok change)
    (retries : Nat) :
    w.runService (attempts rules post user requested retries) =
      (.ok ⟨post, requested, change.delta, (w.tally.entry post).score + change.delta⟩,
        { w with tally := w.tally.put post ((w.tally.entry post).record change) }) := by
  cases retries <;> exact run_attempt_of_decided rules post user requested w h _

/-- A vote on a post that has to be registered and is not changes nothing. -/
theorem run_vote_of_unregistered (hauto : rules.autoRegister = false)
    (h : w.tally.scoreOf post = none) :
    w.runService (vote rules post user requested) = (.error (.postNotFound post), w) := by
  rw [World.runService, World.run, vote_run_of_registered rules post user requested hauto,
    Workflow.run_ask, World.answer_call]
  simp only [Engagement.Tally.answer, h, Ranking.afterScore, Workflow.run_done]

/-- Any other vote begins with an attempt. -/
theorem run_vote (h : rules.autoRegister = true ∨ (w.tally.scoreOf post).isSome) :
    w.runService (vote rules post user requested) =
      w.runService (attempts rules post user requested rules.maxRetries) := by
  cases hauto : rules.autoRegister with
  | true =>
    rw [World.runService, World.run, vote_run_of_auto rules post user requested hauto]
    rfl
  | false =>
    obtain ⟨score, hscore⟩ := Option.isSome_iff_exists.1
      (h.resolve_left (by rw [hauto]; exact Bool.false_ne_true))
    rw [World.runService, World.run, vote_run_of_registered rules post user requested hauto,
      Workflow.run_ask, World.answer_call]
    simp only [Engagement.Tally.answer, hscore, Ranking.afterScore]
    rfl

end Voting

end Forum

/-! ## Listings

Where the services that list posts take them from, and what a world gives them. -/

/-! ### Where listings come from

A listing has two sources: a ranking, and a table that answers windows of its posts, newest first.
`Listing.Sources` says what they hold and that reading leaves them as they are, whatever else there
is. With it a page and the scores that are shown on it are read off what the sources hold. -/

namespace Forum

/-- Identifiers, the greatest first. -/
def Listing.newestFirst (ids : List Int64) : List Int64 :=
  ids.mergeSort fun a b => b ≤ a

/-- They are the same ones. -/
theorem Listing.newestFirst_perm (ids : List Int64) : (newestFirst ids).Perm ids :=
  List.mergeSort_perm _ _

/-- They fall. -/
theorem Listing.pairwise_newestFirst (ids : List Int64) :
    (newestFirst ids).Pairwise fun a b => b ≤ a := by
  have htrans : ∀ a b c : Int64, decide (b ≤ a) = true → decide (c ≤ b) = true →
      decide (c ≤ a) = true := fun a b c hab hbc =>
    decide_eq_true (Int64.le_trans (of_decide_eq_true hbc) (of_decide_eq_true hab))
  have htotal : ∀ a b : Int64, (decide (b ≤ a) || decide (a ≤ b)) = true := fun a b =>
    Bool.or_eq_true_iff.2 ((Int64.le_total b a).imp decide_eq_true decide_eq_true)
  exact (List.pairwise_mergeSort htrans htotal ids).imp of_decide_eq_true

namespace Listing

/-- Surroundings in which a ranking is that of a tally, and posts with the given identifiers are
counted and answered in windows, newest first. Reading leaves them as they are. -/
structure Sources {σ : Type} (answer : (e : Effect) → σ → Except Fault e.Reply × σ) (s : σ)
    (tally : Engagement.Tally) (ids : List Int64) : Prop where
  /-- Calls that read are answered as by the tally. -/
  ranking : ∀ deadline (c : Engagement.Call), c.reads →
    answer (.engagement deadline c) s = (.ok (tally.answer c).1, s)
  /-- The posts are counted. -/
  count : answer (.rows .countPosts) s = (.ok ids.length, s)
  /-- Every window of them is answered. -/
  window : ∀ offset limit : UInt64, ∃ rows,
    answer (.rows (.recentPosts offset limit)) s = (.ok rows, s) ∧
      rows.map (·.id) = ((newestFirst ids).drop offset.toNat).take limit.toNat

/-- The full order of a listing. -/
def full (tally : Engagement.Tally) (ids : List Int64) : ListOrder → List Int64
  | .hot => tally.ranking
  | .newest => newestFirst ids

/-- The posts of a full order within bounds, as they are asked for: not at all if the listing has
no more than lie before the page. -/
def within (listed : List Int64) (bounds : Page.Bounds) : List Int64 :=
  if listed.length ≤ bounds.offset then []
  else (listed.drop (UInt64.ofNat bounds.offset).toNat).take (UInt64.ofNat bounds.size).toNat

/-- They are some of the full order, in that order. -/
theorem within_sublist (listed : List Int64) (bounds : Page.Bounds) :
    (within listed bounds).Sublist listed := by
  rw [within]
  split
  · exact List.nil_sublist _
  · exact (List.take_sublist _ _).trans (List.drop_sublist _ _)

/-- The hot listing has as many posts as are registered. -/
theorem length_full_hot (tally : Engagement.Tally) (ids : List Int64) :
    (full tally ids .hot).length = tally.cardinality := by
  rw [full, tally.ranking_perm.length_eq, List.length_map, tally.length_ranked]

/-- The other one has as many as are in the table. -/
theorem length_full_newest (tally : Engagement.Tally) (ids : List Int64) :
    (full tally ids .newest).length = ids.length :=
  (newestFirst_perm ids).length_eq

variable {σ : Type} {answer : (e : Effect) → σ → Except Fault e.Reply × σ} {s : σ}
  {tally : Engagement.Tally} {ids : List Int64}

namespace Sources

variable (sources : Sources answer s tally ids) (rules : Rules)

include sources

/-- A call that reads, as a service. -/
theorem run_call {c : Engagement.Call} (h : c.reads) :
    (Ranking.call rules c).run.run answer s = (.ok (tally.answer c).1, s) := by
  rw [Ranking.call, Service.ask, ExceptT.run_mk, Workflow.run_ask, sources.ranking _ c h]
  rfl

/-- The total of a listing is the length of its full order. -/
theorem run_total (order : ListOrder) :
    (total rules order).run.run answer s = (.ok (full tally ids order).length, s) := by
  cases order with
  | hot =>
    rw [length_full_hot]
    exact sources.run_call rules (c := .cardinality) trivial
  | newest =>
    rw [length_full_newest, total, Records.countPosts, Records.query, Service.ask, ExceptT.run_mk,
      Workflow.run_ask, sources.count]
    rfl

/-- A window of a listing is a window of its full order. -/
theorem run_window (bounds : Page.Bounds) : (Listing.window rules bounds).run.run answer s =
    (.ok (((full tally ids bounds.order).drop (UInt64.ofNat bounds.offset).toNat).take
      (UInt64.ofNat bounds.size).toNat), s) := by
  rw [Listing.window]
  cases bounds.order with
  | hot => exact sources.run_call rules (c := .topByScore _ _) trivial
  | newest =>
    obtain ⟨rows, hrows, hids⟩ := sources.window (.ofNat bounds.offset) (.ofNat bounds.size)
    dsimp only
    rw [Records.recentIds, Records.query, Service.run_ask_bind, Workflow.run_ask, hrows, full,
      ← hids]
    rfl

/-- A page has the posts of the full order within its bounds. -/
theorem run_list (request : Page.Request) :
    (Listing.list rules request).run.run answer s =
      (.ok ⟨within (full tally ids (request.resolve rules.sizes).order)
          (request.resolve rules.sizes),
        (full tally ids (request.resolve rules.sizes).order).length,
        request.resolve rules.sizes⟩, s) := by
  rw [Listing.list, Service.run_bind_of_ok (sources.run_total rules _), within]
  split
  · rfl
  · rw [Service.run_bind_of_ok (sources.run_window rules _)]
    rfl

/-- A score is shown as zero when the post is not registered. -/
theorem run_scoreOrZero (post : Int64) :
    (Posts.scoreOrZero rules post).run.run answer s = (.ok ((tally.scoreOf post).getD 0), s) := by
  have hscore : answer (.engagement rules.deadline (.scoreOf post)) s =
      (.ok (tally.scoreOf post), s) := sources.ranking _ (.scoreOf post) trivial
  rw [Posts.scoreOrZero, ExceptT.run_bind, Service.outcome, ExceptT.run_mk, Ranking.scoreOf_run]
  simp only [Workflow.bind_eq_andThen, Workflow.andThen, Workflow.run_ask, hscore]
  cases tally.scoreOf post with
  | some score => rfl
  | none => cases rules.autoRegister <;> rfl

/-- The posts of a page are shown with their scores, once their rows have been answered. -/
theorem run_hydrate {shown : List Int64} {rows : List Post}
    (hrows : answer (.rows (.findPosts shown)) s = (.ok rows, s)) :
    (Posts.hydrate rules shown).run.run answer s =
      (.ok ((Records.inOrder shown rows).map fun post =>
        ⟨post, (tally.scoreOf post.id).getD 0⟩), s) := by
  rw [Posts.hydrate, Service.run_bind_of_ok (Records.run_findPosts hrows)]
  refine Service.run_mapM fun post _ => ?_
  rw [Service.run_bind_of_ok (sources.run_scoreOrZero rules post.id)]
  rfl

end Sources

end Listing

end Forum

/-! ### Listings in the world

What a page has, and what is shown of it, in a world in which nobody comes in between. The posts of
a listing come from the ranking or from the table, and their rows and scores are looked up after
that. -/

namespace Forum.World

variable (w : World) (rules : Rules)

/-- All posts of a listing. -/
def listed (w : World) (order : ListOrder) : List Int64 :=
  Listing.full w.tally (w.tables.posts.map (·.id)) order

/-- The posts of a listing within bounds. -/
def window (w : World) (bounds : Page.Bounds) : List Int64 :=
  Listing.within (w.listed bounds.order) bounds

/-- The identifiers of the posts by falling identifier are those of the posts, newest first. -/
theorem map_id_recent (t : Database.Tables) :
    t.recent.map (·.id) = Listing.newestFirst (t.posts.map (·.id)) :=
  List.map_mergeSort fun _ _ _ _ => rfl

/-- The tally and the table are sources of listings. -/
theorem sources : Listing.Sources World.answer w w.tally (w.tables.posts.map (·.id)) where
  ranking deadline c h := by
    have kept : (w.tally.answer c).2 = w.tally := w.tally.answer_of_reads h
    rw [answer_call, kept]
  count := by
    rw [List.length_map]
    rfl
  window offset limit := by
    refine ⟨(w.tables.recent.drop offset.toNat).take limit.toNat, rfl, ?_⟩
    rw [List.map_take, List.map_drop, map_id_recent]

/-- A page has the posts within its bounds. -/
theorem run_list (request : Page.Request) :
    w.runService (Listing.list rules request) =
      (.ok ⟨w.window (request.resolve rules.sizes),
        (w.listed (request.resolve rules.sizes).order).length,
        request.resolve rules.sizes⟩, w) :=
  w.sources.run_list rules request

/-- The posts of a page are shown with their scores. -/
theorem run_hydrate (ids : List Int64) : w.runService (Posts.hydrate rules ids) =
    (.ok ((Records.inOrder ids (w.tables.posts.filter (·.id ∈ ids))).map fun post =>
      ⟨post, (w.tally.scoreOf post.id).getD 0⟩), w) :=
  w.sources.run_hydrate rules rfl

/-- A world whose stores do not agree: post 9 is not registered, post 5 is registered and has no
row, and the second user likes post 7. -/
def uneven : World :=
  let noon : Timestamp := .noon
  let tally := ((Engagement.Tally.empty.register 8).2.adjustScore 5 1).2
  ⟨⟨[⟨1, "ann", "ann", "a", noon⟩, ⟨2, "bob", "bob", "b", noon⟩],
      [⟨7, 1, "First", "", noon⟩, ⟨9, 2, "Third", "", noon⟩, ⟨8, 1, "Second", "", noon⟩]⟩,
    (tally.commitVote ⟨7, 2, none, .like⟩).2, .unused, .ticking 0, noon⟩

end Forum.World
