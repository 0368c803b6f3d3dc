import Mathlib
import Forum.Proofs.Http.Routing
import Forum.Proofs.Http.Session
import Forum.Proofs.Text.Numeral

/-!
# What callers read

Responses as callers see them: the post that is shown in one, the posts of a page, with their scores
or without, the vote, and the identifier of what was created. A caller knows nothing of the stores;
all that it can say about the posts of the forum is what it has been answered. `Exchange.created?`
and `Exchange.deleted?` say what one exchange tells of a post, and `living` puts together what a
history tells: the posts that have been created and not deleted, in the order of their creation.
-/

namespace Forum.Http

/-! ## JSON as callers read it -/

/-- Reads a text. -/
def readText? : Json → Option String
  | .string s => some s
  | _ => none

/-- Reads an identifier, which is written as a text. -/
def readId? (value : Json) : Option Int64 :=
  (readText? value).bind fun s => Numeral.int64? s.toList

/-- An identifier that was written is read back. -/
theorem readId?_idView (id : Int64) : readId? (idView id) = some id := by
  have hread : Numeral.integer? (toString id).toList = some id.toInt :=
    Numeral.integer?_toString id.toInt
  change Numeral.int64? (toString id).toList = some id
  rw [Numeral.int64?, hread, Option.bind_some, Numeral.fitting?_toInt]

/-- A whole number that was written is read back as one. -/
theorem whole?_ofInt (v : Int) : (Json.Number.ofInt v).whole? = some v := by
  have hplain : ((Json.Number.ofInt v).fraction.isEmpty &&
      (Json.Number.ofInt v).exponent.isNone) = true := rfl
  have hvalue : Numeral.value (Json.Number.ofInt v).digits = v.natAbs :=
    Numeral.value_toDigits v.natAbs
  rw [Json.Number.whole?, if_pos hplain, hvalue]
  dsimp only
  by_cases hv : v < 0
  · rw [if_pos (show (Json.Number.ofInt v).negative = true from decide_eq_true hv),
      if_neg (Int.natAbs_ne_zero.2 hv.ne), Int.ofNat_natAbs_of_nonpos hv.le, Int.neg_neg]
  · rw [if_neg (show ¬ (Json.Number.ofInt v).negative = true from decide_eq_true_iff.not.2 hv),
      Int.natAbs_of_nonneg (Int.not_lt.1 hv)]

/-- Reads a score. -/
def readScore? : Json → Option Int64
  | .number n => n.whole?.bind Numeral.fitting?
  | _ => none

/-- A score that was written is read back. -/
theorem readScore?_int (score : Int64) : readScore? (.int score.toInt) = some score := by
  change (Json.Number.ofInt score.toInt).whole?.bind Numeral.fitting? = some score
  rw [whole?_ofInt, Option.bind_some, Numeral.fitting?_toInt]

/-- What a post shows that never changes: all but its score and the vote on it. -/
structure Article where
  /-- The identifier. -/
  id : Int64
  /-- The identifier of its author. -/
  author : Int64
  /-- The title. -/
  title : String
  /-- The text. -/
  content : String
  /-- When it was written. -/
  createdAt : String
  deriving DecidableEq, Repr

/-- What the row of a post shows. -/
def Article.ofPost (post : Post) : Article :=
  ⟨post.id, post.author, post.title, post.content, post.createdAt.render⟩

/-- Reads a post. -/
def readArticle? (value : Json) : Option Article := do
  return ⟨← (value.member? "id").bind readId?, ← (value.member? "userId").bind readId?,
    ← (value.member? "title").bind readText?, ← (value.member? "content").bind readText?,
    ← (value.member? "createdAt").bind readText?⟩

/-- A post is shown with its identifier. -/
theorem member?_id_postView (post : Post) (score : Int64) (vote : Option Direction) :
    (postView post score vote).member? "id" = some (idView post.id) := by
  cases vote <;> rfl

/-- A post that is shown is read back, whatever its score is and whoever asks. -/
theorem readArticle?_postView (post : Post) (score : Int64) (vote : Option Direction) :
    readArticle? (postView post score vote) = some (.ofPost post) := by
  have hauthor : ((postView post score vote).member? "userId") = some (idView post.author) := by
    cases vote <;> rfl
  have htitle : ((postView post score vote).member? "title") = some (.string post.title) := by
    cases vote <;> rfl
  have hcontent : ((postView post score vote).member? "content") =
      some (.string post.content) := by
    cases vote <;> rfl
  have hcreated : ((postView post score vote).member? "createdAt") =
      some (.string post.createdAt.render) := by
    cases vote <;> rfl
  rw [readArticle?, member?_id_postView, hauthor, htitle, hcontent, hcreated, Option.bind_some,
    Option.bind_some, readId?_idView, readId?_idView]
  rfl

/-- What a post on a page shows: itself and its score. -/
structure Listed where
  /-- The post. -/
  article : Article
  /-- The score. -/
  score : Int64
  deriving DecidableEq, Repr

/-- What a post on a page is shown as. -/
def Listed.ofView (view : Posts.View) : Listed :=
  ⟨.ofPost view.post, view.score⟩

/-- Reads a post on a page. -/
def readListed? (value : Json) : Option Listed := do
  return ⟨← readArticle? value, ← (value.member? "score").bind readScore?⟩

/-- A post on a page is read back with its score. -/
theorem readListed?_postView (post : Post) (score : Int64) (vote : Option Direction) :
    readListed? (postView post score vote) = some ⟨.ofPost post, score⟩ := by
  have hscore : (postView post score vote).member? "score" = some (.int score.toInt) := by
    cases vote <;> rfl
  rw [readListed?, readArticle?_postView, hscore, Option.bind_some, readScore?_int]
  rfl

/-! ## Responses -/

namespace Response

instance (response : Response) : Decidable response.IsSuccess :=
  inferInstanceAs (Decidable (_ ∧ _))

/-- The result that a successful response carries. -/
def result? (response : Response) : Option Json :=
  if response.IsSuccess then
    match response.body with
    | .json value => value.member? "data"
    | _ => none
  else none

/-- The post that is shown. -/
def article? (response : Response) : Option Article :=
  response.result?.bind readArticle?

/-- The posts of the page that is shown, each read in the same way. -/
def posts? {α : Type} (read : Json → Option α) (response : Response) : Option (List α) :=
  (response.result?.bind (·.member? "posts")).bind fun
    | .array items => items.mapM read
    | _ => none

/-- The posts of the page that is shown. -/
def articles? (response : Response) : Option (List Article) :=
  response.posts? readArticle?

/-- The posts of the page that is shown, with their scores. -/
def listed? (response : Response) : Option (List Listed) :=
  response.posts? readListed?

/-- The vote that is shown, which may be none. -/
def vote? (response : Response) : Option (Option Direction) :=
  (response.result?.bind (·.member? "direction")).bind fun
    | .null => some none
    | .string name => (Direction.ofName? name).map some
    | _ => none

/-- The identifier of what is shown. -/
def id? (response : Response) : Option Int64 :=
  (response.result?.bind (·.member? "id")).bind readId?

end Response

/-- What a response carries is there unless only the head was asked for. -/
theorem result?_dress {r : Request} (h : r.method ≠ .head) (value : Json) :
    (dress r (.data value)).result? = some value := by
  rw [dress, if_neg h]
  rfl

/-- A response that is no success carries nothing. -/
theorem result?_of_not_isSuccess {response : Response} (h : ¬ response.IsSuccess) :
    response.result? = none :=
  if_neg h

/-- The post in a response is read back. -/
theorem article?_dress {r : Request} (h : r.method ≠ .head) (post : Post) (score : Int64)
    (vote : Option Direction) :
    (dress r (.data (postView post score vote))).article? = some (.ofPost post) := by
  rw [Response.article?, result?_dress h, Option.bind_some, readArticle?_postView]

/-- So are the posts of a page, if each of them is. -/
theorem posts?_dress {α : Type} {read : Json → Option α} {f : Posts.View → α}
    (hread : ∀ v : Posts.View, read (postView v.post v.score none) = some (f v)) {r : Request}
    (h : r.method ≠ .head) (page : Page) (views : List Posts.View) :
    (dress r (.data (pageView page views))).posts? read = some (views.map f) := by
  have hposts : (pageView page views).member? "posts" =
      some (.array (views.map fun v => postView v.post v.score none)) := rfl
  rw [Response.posts?, result?_dress h, Option.bind_some, hposts, Option.bind_some]
  dsimp only
  induction views with
  | nil => rfl
  | cons v views ih =>
    rw [List.map_cons, List.mapM_cons, hread, ih rfl]
    rfl

theorem articles?_dress {r : Request} (h : r.method ≠ .head) (page : Page)
    (views : List Posts.View) : (dress r (.data (pageView page views))).articles? =
      some (views.map fun v => .ofPost v.post) :=
  posts?_dress (fun v => readArticle?_postView v.post v.score none) h page views

theorem listed?_dress {r : Request} (h : r.method ≠ .head) (page : Page)
    (views : List Posts.View) : (dress r (.data (pageView page views))).listed? =
      some (views.map .ofView) :=
  posts?_dress (fun v => readListed?_postView v.post v.score none) h page views

/-- So is the vote. -/
theorem vote?_dress {r : Request} (h : r.method ≠ .head) (post : Int64)
    (vote : Option Direction) : (dress r (.data (voteView post vote))).vote? = some vote := by
  have hdirection : (voteView post vote).member? "direction" = some (directionView vote) := rfl
  rw [Response.vote?, result?_dress h, Option.bind_some, hdirection, Option.bind_some]
  cases vote with
  | none => rfl
  | some d => cases d <;> rfl

/-! ## Exchanges -/

namespace Exchange

/-- The post that an exchange has created. -/
def created? (e : Exchange) : Option Article :=
  if e.request.method = .post ∧ e.request.target.path = Route.posts.path then
    e.response.article?
  else none

/-- The identifier that an exchange has given to a new post or to a new user. -/
def issued? (e : Exchange) : Option Int64 :=
  if e.request.method = .post ∧
      (e.request.target.path = Route.posts.path ∨ e.request.target.path = Route.users.path) then
    e.response.id?
  else none

/-- The post that an exchange has deleted. -/
def deleted? (e : Exchange) : Option Int64 :=
  if e.request.method = .delete ∧ e.response.IsSuccess then e.request.post? else none

end Exchange

/-- A post that is read has an identifier that is read. -/
theorem readId?_of_readArticle? {value : Json} {article : Article}
    (h : readArticle? value = some article) :
    (value.member? "id").bind readId? = some article.id := by
  obtain ⟨id, hid, hrest⟩ := Option.bind_eq_some_iff.1 h
  obtain ⟨author, -, hrest⟩ := Option.bind_eq_some_iff.1 hrest
  obtain ⟨title, -, hrest⟩ := Option.bind_eq_some_iff.1 hrest
  obtain ⟨content, -, hrest⟩ := Option.bind_eq_some_iff.1 hrest
  obtain ⟨createdAt, -, hrest⟩ := Option.bind_eq_some_iff.1 hrest
  obtain rfl := Option.some.inj hrest
  exact hid

/-- A new post has a new identifier, and its exchange deletes nothing. -/
theorem issued?_of_created? {e : Exchange} {article : Article} (h : e.created? = some article) :
    e.issued? = some article.id ∧ e.deleted? = none := by
  rw [Exchange.created?] at h
  split at h
  · next hpost =>
    obtain ⟨value, hvalue, hread⟩ := Option.bind_eq_some_iff.1 h
    rw [Exchange.issued?, if_pos ⟨hpost.1, .inl hpost.2⟩, Response.id?, hvalue, Option.bind_some]
    exact ⟨readId?_of_readArticle? hread, if_neg fun hdelete => absurd
      (hdelete.1.symm.trans hpost.1) (by decide)⟩
  · cases h

/-- Whether an exchange is a successful request to write a post. -/
def Exchange.Creates (e : Exchange) : Prop :=
  e.request.method = .post ∧ e.request.target.path = Route.posts.path ∧ e.response.IsSuccess

/-- The posts that have been created and not deleted, in the order of their creation. -/
def living (history : List Exchange) : List Article :=
  (history.filterMap Exchange.created?).filter
    fun article => article.id ∉ history.filterMap Exchange.deleted?

section living

variable (history : List Exchange) {e : Exchange}

/-- An exchange that tells of no post. -/
theorem living_concat_of_silent (created : e.created? = none) (deleted : e.deleted? = none) :
    living (history ++ [e]) = living history := by
  rw [living, List.filterMap_append, List.filterMap_append, List.filterMap_cons_none created,
    List.filterMap_cons_none deleted, List.filterMap_nil, List.filterMap_nil, List.append_nil,
    List.append_nil, living]

/-- A post that is created is the last one from then on. -/
theorem living_concat_of_created {article : Article} (created : e.created? = some article)
    (deleted : e.deleted? = none) (new : article.id ∉ history.filterMap Exchange.deleted?) :
    living (history ++ [e]) = living history ++ [article] := by
  have hkept : ([article].filter fun a => a.id ∉ history.filterMap Exchange.deleted?) =
      [article] := by
    rw [List.filter_eq_self]
    exact List.forall_mem_singleton.2 (decide_eq_true new)
  rw [living, List.filterMap_append, List.filterMap_append, List.filterMap_cons_some created,
    List.filterMap_cons_none deleted, List.filterMap_nil, List.filterMap_nil, List.append_nil,
    List.filter_append, hkept, living]

/-- A post that is deleted is not there from then on. -/
theorem living_concat_of_deleted {id : Int64} (created : e.created? = none)
    (deleted : e.deleted? = some id) :
    living (history ++ [e]) = (living history).filter (·.id ≠ id) := by
  rw [living, List.filterMap_append, List.filterMap_append, List.filterMap_cons_none created,
    List.filterMap_cons_some deleted, List.filterMap_nil, List.filterMap_nil, List.append_nil,
    living, List.filter_filter]
  refine List.filter_congr fun article _ => ?_
  rw [← Bool.decide_and, decide_eq_decide, List.mem_append, List.mem_singleton, not_or, and_comm]

/-- A living post has been created. -/
theorem mem_living_iff {article : Article} : article ∈ living history ↔
    (∃ e ∈ history, e.created? = some article) ∧ ∀ e ∈ history, e.deleted? ≠ some article.id := by
  rw [living, List.mem_filter, List.mem_filterMap, decide_eq_true_eq, List.mem_filterMap]
  simp only [not_exists, not_and, ne_eq]

end living

end Forum.Http
