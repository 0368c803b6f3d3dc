import Mathlib
import Forum.Proofs.Http.Path

/-!
# Requests that reach a post

A path in which a segment stands for a post is found to be the path of that post. What could go
wrong is a slash in the segment, at which the path would be split. A segment is a number in percent
encoding: a slash in it would be read as itself, whatever stands around it, and no number is written
with a slash.
-/

namespace Forum

/-- The byte of a slash. -/
def slash : UInt8 := 0x2F

/-! ## Slashes are read as slashes -/

namespace Utf8

/-- Whether all bytes that are still owed are at least 128, so that none of them is a character of
its own. -/
def Owed.Continues (owed : Owed) : Prop :=
  0x80 ≤ owed.next.1 ∧ ∀ range ∈ owed.later, 0x80 ≤ range.1

/-- What a first byte announces is owed in such bytes. -/
theorem continues_of_lead? {b : Nat} {owed : Owed} (h : lead? b = some owed) :
    owed.Continues := by
  unfold lead? at h
  split_ifs at h
  all_goals
    obtain rfl := Option.some.inj h
    simp [Owed.Continues, tail]

/-- A slash among the bytes is read as itself, or something before it is not a character. -/
theorem slash_mem_parts {bytes : List UInt8} (h : slash ∈ bytes) (owed : Option Owed)
    (continues : ∀ o ∈ owed, o.Continues) :
    none ∈ parts owed bytes ∨ some '/' ∈ parts owed bytes := by
  induction bytes generalizing owed with
  | nil => cases h
  | cons b rest ih =>
    have hnothing : ∀ o ∈ (none : Option Owed), o.Continues := nofun
    have hlead : ∀ {o}, lead? b.toNat = some o → ∀ o' ∈ some o, o'.Continues := by
      rintro o ho o' ⟨⟩
      exact continues_of_lead? ho
    rcases List.mem_cons.1 h with rfl | hrest
    · cases owed with
      | none => exact .inr List.mem_cons_self
      | some o =>
        -- No byte that is owed is a slash, so what has begun ends here.
        have hsmall : ¬ (o.next.1 ≤ slash.toNat ∧ slash.toNat ≤ o.next.2) := by
          have hgreat := (continues o rfl).1
          have hslash : slash.toNat = 0x2F := rfl
          omega
        rw [parts, if_neg hsmall]
        exact .inl List.mem_cons_self
    · have hlater : ∀ {o : Option Owed} (front : List (Option Char)), (∀ o' ∈ o, o'.Continues) →
          none ∈ front ++ parts o rest ∨ some '/' ∈ front ++ parts o rest := fun front ho =>
        (ih hrest _ ho).imp (List.mem_append_right _) (List.mem_append_right _)
      cases owed with
      | none =>
        rw [parts]
        split
        · exact hlater [_] hnothing
        · split
          · next o ho => exact hlater [] (hlead ho)
          · exact hlater [none] hnothing
      | some o =>
        rw [parts]
        split
        · dsimp only
          split
          · exact hlater [_] hnothing
          · next range ranges hranges =>
            have hall := (continues o rfl).2
            rw [hranges] at hall
            refine hlater [] ?_
            rintro o' ⟨⟩
            exact ⟨hall range List.mem_cons_self, fun r hr => hall r (List.mem_cons_of_mem _ hr)⟩
        · split
          · exact hlater [none, _] hnothing
          · split
            · next o' ho' => exact hlater [none] (hlead ho')
            · exact hlater [none, none] hnothing

/-- Bytes that are all characters are read as those. -/
theorem parts_of_decode? {bytes : List UInt8} {cs : List Char} (h : decode? bytes = some cs) :
    parts none bytes = cs.map some := by
  rw [decode?] at h
  generalize parts none bytes = read at h
  induction read generalizing cs with
  | nil =>
    obtain rfl := Option.some.inj h
    rfl
  | cons part read ih =>
    rw [List.mapM_cons] at h
    obtain ⟨c, rfl, hread⟩ := Option.bind_eq_some_iff.1 h
    obtain ⟨rest, hrest, hcs⟩ := Option.bind_eq_some_iff.1 hread
    obtain rfl := Option.some.inj hcs
    rw [ih hrest]
    rfl

/-- A slash among the bytes of a text is a slash of the text. -/
theorem slash_mem_of_decode? {bytes : List UInt8} {cs : List Char} (h : decode? bytes = some cs)
    (hslash : slash ∈ bytes) : '/' ∈ cs := by
  have hread := slash_mem_parts hslash none nofun
  rw [parts_of_decode? h] at hread
  rcases hread with hnone | hsome
  · obtain ⟨c, -, hc⟩ := List.mem_map.1 hnone
    cases hc
  · obtain ⟨c, hc, hsame⟩ := List.mem_map.1 hsome
    rwa [← Option.some.inj hsame]

/-- A slash of a text is a byte of it. -/
theorem slash_mem_encode {cs : List Char} (h : '/' ∈ cs) : slash ∈ encode (String.ofList cs) := by
  rw [encode_ofList, List.mem_flatMap]
  exact ⟨'/', h, by decide⟩

end Utf8

namespace Http

/-- No escape begins with a slash or has one in it. -/
theorem slash_notMem_of_escaped? {sign high low value : UInt8}
    (h : escaped? sign high low = some value) : slash ∉ [sign, high, low] := by
  have hsign : escaped? slash high low = none := rfl
  have hhigh : escaped? sign slash low = none := by
    unfold escaped?
    split <;> rfl
  have hlow : escaped? sign high slash = none := by
    unfold escaped?
    split
    · rfl
    · cases hexByte? high <;> rfl
  intro hslash
  simp only [List.mem_cons, List.not_mem_nil, or_false] at hslash
  rcases hslash with rfl | rfl | rfl
  · rw [hsign] at h
    cases h
  · rw [hhigh] at h
    cases h
  · rw [hlow] at h
    cases h

/-- Percent encoding keeps every slash. -/
theorem slash_mem_percentDecode {bytes : List UInt8} (h : slash ∈ bytes) :
    slash ∈ percentDecode bytes := by
  induction bytes using percentDecode.induct with
  | case1 b high low rest value hvalue ih =>
    rw [percentDecode, hvalue]
    have hrest : slash ∈ rest := by
      have hsplit : slash ∈ [b, high, low] ++ rest := h
      exact (List.mem_append.1 hsplit).resolve_left (slash_notMem_of_escaped? hvalue)
    exact List.mem_cons_of_mem _ (ih hrest)
  | case2 b high low rest hvalue ih =>
    rw [percentDecode, hvalue]
    rcases List.mem_cons.1 h with rfl | hrest
    · exact List.mem_cons_self
    · exact List.mem_cons_of_mem _ (ih hrest)
  | case3 rest hshort =>
    unfold percentDecode
    split
    · next b high low rest => exact absurd rfl (hshort b high low rest)
    · exact h

end Http

/-- A number is written with digits and a sign, so with at least one character and no slash. -/
theorem Numeral.wellFormed_of_int64? {cs : List Char} {n : Int64} (h : int64? cs = some n) :
    cs ≠ [] ∧ '/' ∉ cs := by
  have hdigits : ∀ {ds : List Char} {m : Nat}, natural? ds = some m → ds ≠ [] ∧ '/' ∉ ds := by
    intro ds m hm
    rw [natural?] at hm
    split at hm
    · next hall =>
      simp only [Bool.and_eq_true, Bool.not_eq_true', List.isEmpty_eq_false_iff,
        List.all_eq_true] at hall
      exact ⟨hall.1, fun hslash => absurd (hall.2 '/' hslash) (by decide)⟩
    · cases hm
  have hsigned : ∀ {sign : Char} {ds : List Char}, sign ≠ '/' → ds ≠ [] ∧ '/' ∉ ds →
      sign :: ds ≠ [] ∧ '/' ∉ sign :: ds := by
    intro sign ds hsign hds
    exact ⟨List.cons_ne_nil _ _, List.not_mem_cons_of_ne_of_not_mem hsign.symm hds.2⟩
  have hread : ∀ {ds : List Char} {f : Int → Int} {m : Int},
      (do let k ← natural? ds; pure (k : Int)).map f = some m → ds ≠ [] ∧ '/' ∉ ds := by
    intro ds f m hm
    obtain ⟨i, hi, -⟩ := Option.map_eq_some_iff.1 hm
    obtain ⟨k, hk, -⟩ := Option.bind_eq_some_iff.1 hi
    exact hdigits hk
  obtain ⟨m, hm, -⟩ := Option.bind_eq_some_iff.1 h
  unfold integer? at hm
  split at hm
  · exact hsigned (by decide) (hread hm)
  · exact hsigned (by decide) (hread hm)
  · exact hread hm

namespace Http

/-! ## From the path to the resource -/

/-- The segment that stands for a post. -/
def Route.segment? : Route → Option (List Char)
  | post segment | like segment | dislike segment | vote segment => some segment
  | health | users | me | posts => none

/-- A segment that stands for a post is not empty and has no slash. -/
theorem wellFormed_of_postOf? {segment : List Char} {id : Int64} (h : postOf? segment = some id) :
    segment ≠ [] ∧ '/' ∉ segment := by
  obtain ⟨cs, hcs, hid⟩ := Option.bind_eq_some_iff.1 h
  obtain ⟨hempty, hslash⟩ := Numeral.wellFormed_of_int64? hid
  constructor
  · rintro rfl
    exact hempty (Option.some.inj (hcs.symm.trans rfl))
  · intro hmem
    exact hslash (Utf8.slash_mem_of_decode? hcs (slash_mem_percentDecode
      (Utf8.slash_mem_encode hmem)))

/-- The path of a resource leads to the resource, if the segment for a post is not empty and has no
slash. -/
theorem Route.ofTarget?_of_path {t : Target} {route : Route} (h : t.path = route.path)
    (segment : ∀ segment ∈ route.segment?, segment ≠ [] ∧ '/' ∉ segment) :
    ofTarget? t = some route := by
  have hsplit : ∀ cs : List Char, t.path = '/' :: cs →
      ofTarget? t = ofSegments? (Split.parts '/' cs) := by
    intro cs hpath
    rw [ofTarget?, Target.segments?, hpath]
    rfl
  have hbelow : ∀ cs : List Char, t.path = "/api/posts/".toList ++ cs →
      ofTarget? t = ofSegments? ("api".toList :: "posts".toList :: Split.parts '/' cs) := by
    intro cs hpath
    rw [hsplit ("api".toList ++ '/' :: ("posts".toList ++ '/' :: cs)) hpath,
      Split.parts_append_cons (by decide), Split.parts_append_cons (by decide)]
  have hpart : ∀ (cs : List Char) (part : String), cs ≠ [] → '/' ∉ cs → '/' ∉ part.toList →
      t.path = "/api/posts/".toList ++ cs ++ ("/" ++ part).toList →
      ofTarget? t = ofPostPart? cs part := by
    intro cs part hne hcs hname hpath
    rw [hbelow (cs ++ '/' :: part.toList) (by rw [hpath, String.toList_append]; simp),
      Split.parts_append_cons hcs, Split.parts_of_not_mem hname]
    simp [ofSegments?]
  cases route with
  | health => exact hsplit _ h
  | users => exact hsplit _ h
  | me => exact hsplit _ h
  | posts => exact hsplit _ h
  | post cs =>
    obtain ⟨hne, hcs⟩ := segment cs rfl
    rw [hbelow cs h, Split.parts_of_not_mem hcs]
    simp [ofSegments?, hne]
  | like cs =>
    obtain ⟨hne, hcs⟩ := segment cs rfl
    rw [hpart cs "like" hne hcs (by decide) h, ofPostPart?]
    simp [hne]
  | dislike cs =>
    obtain ⟨hne, hcs⟩ := segment cs rfl
    rw [hpart cs "dislike" hne hcs (by decide) h, ofPostPart?]
    simp [hne]
  | vote cs =>
    obtain ⟨hne, hcs⟩ := segment cs rfl
    rw [hpart cs "vote" hne hcs (by decide) h, ofPostPart?]
    simp [hne]

/-- A request at a post reaches the resource that has its path, whatever the name is that stands
below the post. -/
theorem Request.IsAt.route {r : Request} {id : Int64} {below : String} (h : r.IsAt id below)
    (route : List Char → Route) (named : ∀ cs, (route cs).segment? = some cs)
    (path : ∀ cs, (route cs).path = "/api/posts/".toList ++ cs ++ below.toList) :
    ∃ segment, postOf? segment = some id ∧ Route.ofTarget? r.target = some (route segment) := by
  obtain ⟨segment, hpath, hid⟩ := h
  refine ⟨segment, hid, Route.ofTarget?_of_path (hpath.trans (path segment).symm) ?_⟩
  rintro cs hcs
  obtain rfl := Option.some.inj ((named segment).symm.trans hcs)
  exact wellFormed_of_postOf? hid

/-- The post that the path of a request is that of. -/
def Request.post? (r : Request) : Option Int64 :=
  let start := "/api/posts/".toList
  if start <+: r.target.path then postOf? (r.target.path.drop start.length) else none

/-- It is the post that the request is at. -/
theorem Request.post?_eq_some_iff {r : Request} {id : Int64} :
    r.post? = some id ↔ r.IsAt id "" := by
  rw [post?]
  constructor
  · intro h
    split at h
    · next hstart =>
      obtain ⟨segment, hpath⟩ := hstart
      rw [← hpath, List.drop_left] at h
      exact ⟨segment, hpath.symm.trans (List.append_nil _).symm, h⟩
    · cases h
  · rintro ⟨segment, hpath, hid⟩
    have hsegment : r.target.path = "/api/posts/".toList ++ segment :=
      hpath.trans (List.append_nil _)
    rw [hsegment, if_pos (List.prefix_append _ _), List.drop_left, hid]

end Http

end Forum
