import Mathlib
import Forum.Http.App

/-!
# Paths and tokens

What a request says in so many words: the path of a resource, the post in it, and the token of the
caller. The resource that is found for a target has the path of the target, so what is known of the
resource can be read off the path.
-/

namespace Forum

namespace Split

variable (mark : Char)

/-- There is always a part. -/
theorem partsFrom_ne_nil (read cs : List Char) : partsFrom mark read cs ≠ [] := by
  induction cs generalizing read with
  | nil => exact List.cons_ne_nil _ _
  | cons c cs ih =>
    rw [partsFrom]
    split
    · exact List.cons_ne_nil _ _
    · exact ih _

/-- Putting the mark between the parts gives back the text and what was read before it. -/
theorem intercalate_partsFrom (read cs : List Char) :
    [mark].intercalate (partsFrom mark read cs) = read.reverse ++ cs := by
  induction cs generalizing read with
  | nil => rw [partsFrom, List.intercalate_singleton, List.append_nil]
  | cons c cs ih =>
    rw [partsFrom]
    split
    · next same =>
      rw [List.intercalate_cons_of_ne_nil (partsFrom_ne_nil mark [] cs), ih, same,
        List.append_assoc]
      rfl
    · rw [ih, List.reverse_cons, List.append_assoc]
      rfl

/-- Putting the mark between the parts of a text gives back the text. -/
theorem intercalate_parts (cs : List Char) : [mark].intercalate (parts mark cs) = cs :=
  intercalate_partsFrom mark [] cs

end Split

namespace Http

/-! ## Paths -/

/-- The path of a resource. -/
def Route.path : Route → List Char
  | health => "/healthz".toList
  | users => "/api/users".toList
  | me => "/api/users/me".toList
  | posts => "/api/posts".toList
  | post segment => "/api/posts/".toList ++ segment
  | like segment => "/api/posts/".toList ++ segment ++ "/like".toList
  | dislike segment => "/api/posts/".toList ++ segment ++ "/dislike".toList
  | vote segment => "/api/posts/".toList ++ segment ++ "/vote".toList

/-- The resource below a post has the segment of the post and its own name in its path. -/
theorem Route.path_of_ofPostPart? {segment : List Char} {part : String} {route : Route}
    (h : ofPostPart? segment part = some route) :
    route.path = "/api/posts/".toList ++ segment ++ '/' :: part.toList := by
  unfold ofPostPart? at h
  split at h
  · cases h
  · split at h
    · next same => cases h; rw [same]; rfl
    · split at h
      · next same => cases h; rw [same]; rfl
      · split at h
        · next same => cases h; rw [same]; rfl
        · cases h

/-- Segments that name a resource are those of its path. -/
theorem Route.path_of_ofSegments? {segments : List (List Char)} {route : Route}
    (h : ofSegments? segments = some route) : '/' :: ['/'].intercalate segments = route.path := by
  have hback : segments = (segments.map String.ofList).map String.toList := by
    rw [List.map_map]
    exact (List.map_id'' (fun _ => String.toList_ofList) segments).symm
  rw [hback]
  unfold ofSegments? at h
  generalize segments.map String.ofList = names at h ⊢
  split at h
  · obtain rfl := Option.some.inj h
    rfl
  · obtain rfl := Option.some.inj h
    rfl
  · obtain rfl := Option.some.inj h
    rfl
  · obtain rfl := Option.some.inj h
    rfl
  · next id =>
    split at h
    · cases h
    · obtain rfl := Option.some.inj h
      change _ = "/api/posts/".toList ++ id.toList
      simp [List.intercalate]
  · next id part =>
    rw [path_of_ofPostPart? h]
    simp [List.intercalate]
  · cases h

/-- The resource that is found for a target has its path. -/
theorem Route.path_of_ofTarget? {t : Target} {route : Route} (h : ofTarget? t = some route) :
    t.path = route.path := by
  obtain ⟨segments, hsegments, hroute⟩ := Option.bind_eq_some_iff.1 h
  rw [← path_of_ofSegments? hroute]
  unfold Target.segments? at hsegments
  split at hsegments
  · next rest hpath =>
    rw [hpath, ← Option.some.inj hsegments, Split.intercalate_parts]
  · cases hsegments

/-- The post that a segment of a path stands for. -/
def postOf? (segment : List Char) : Option Int64 :=
  (decodePathPart? segment).bind Numeral.int64?

/-- Whether the path of a request is that of a post, with the given text below it. -/
def Request.IsAt (r : Request) (post : Int64) (below : String) : Prop :=
  ∃ segment, r.target.path = "/api/posts/".toList ++ segment ++ below.toList ∧
    postOf? segment = some post

/-! ## Tokens -/

/-- Whether a request carries a token: its first authorization field is the token after the word
`Bearer`. -/
def Request.Carries (r : Request) (token : String) : Prop :=
  r.header? "authorization" = some ("Bearer " ++ token)

/-- The token that is found in a request is one that it carries. -/
theorem carries_of_bearerToken? {r : Request} {token : String} (h : bearerToken? r = some token) :
    r.Carries token := by
  obtain ⟨value, hvalue, htoken⟩ := Option.bind_eq_some_iff.1 h
  rw [Request.Carries, hvalue]
  dsimp only at htoken
  split at htoken
  · split at htoken
    · next hscheme =>
      have hlist : value.toList = "Bearer ".toList ++ token.toList := by
        rw [← hscheme, ← Option.some.inj htoken, String.toList_ofList, List.take_append_drop]
      rw [← String.toList_inj.1 (hlist.trans String.toList_append.symm)]
    · cases htoken
  · cases htoken

end Http

end Forum
