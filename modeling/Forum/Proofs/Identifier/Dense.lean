import Mathlib
import Forum.Proofs.Identifier.Fleet
import Forum.Proofs.Identifier.Readings

/-!
# Sequence numbers without gaps

What one generator issues, taken apart, in the order of the calls. Each identifier is next to the
one before it: it starts a later millisecond with the number zero, or goes on within the same one.
The identifiers of a millisecond therefore stand together and are numbered from zero on, and there
are no more of them than their field has numbers. A call that finds the clock at a time of which all
numbers are used up fails or goes on to a later reading.
-/

namespace Forum.Identifier

/-- What may come after an identifier of the same worker. -/
def Parts.Next (p q : Parts) : Prop :=
  p.timestamp < q.timestamp ∧ q.sequence = 0 ∨
    q.timestamp = p.timestamp ∧ q.sequence = p.sequence + 1

/-- The identifiers of a millisecond among those of a run: they are issued one after the other, are
numbered from zero on, and their numbers fit a field of so many bits. -/
structure Dense (bits : Nat) (shown : List Parts) (t : Nat) : Prop where
  /-- All earlier ones come before them, and all later ones after them. -/
  consecutive : shown = shown.filter (·.timestamp < t) ++ shown.filter (·.timestamp = t) ++
    shown.filter (t < ·.timestamp)
  /-- No number is left out. -/
  numbered : (shown.filter (·.timestamp = t)).map (·.sequence) =
    List.range (shown.countP (·.timestamp = t))
  /-- There is a number for each. -/
  room : shown.countP (·.timestamp = t) ≤ 2 ^ bits

section Chain

variable {shown : List Parts} {p : Parts}

/-- Time does not go back along identifiers of which each is next to the one before. -/
theorem sorted_of_chain (hc : shown.IsChain Parts.Next) :
    shown.Pairwise fun p q => p.timestamp ≤ q.timestamp := by
  have hle : shown.IsChain fun p q => p.timestamp ≤ q.timestamp := by
    refine hc.imp fun p q hn => ?_
    rcases hn with ⟨hlt, _⟩ | ⟨heq, _⟩
    · exact hlt.le
    · exact heq.ge
  have htimes : (shown.map (·.timestamp)).IsChain (· ≤ ·) := (List.isChain_map _).2 hle
  exact List.pairwise_map.1 (List.isChain_iff_pairwise.1 htimes)

/-- Parts in the order of their times fall into the earlier ones, those of a millisecond, and the
later ones. -/
theorem eq_append_of_sorted (t : Nat)
    (hs : shown.Pairwise fun p q => p.timestamp ≤ q.timestamp) :
    shown = shown.filter (·.timestamp < t) ++ shown.filter (·.timestamp = t) ++
      shown.filter (t < ·.timestamp) := by
  induction hs with
  | nil => rfl
  | @cons p rest hle _ ih =>
    have hnone : t ≤ p.timestamp → rest.filter (·.timestamp < t) = [] := fun htp =>
      List.filter_eq_nil_iff.2 fun q hq => by
        have hpq := hle q hq
        simp only [decide_eq_true_eq]
        omega
    rcases Nat.lt_trichotomy p.timestamp t with hlt | heq | hgt
    · rw [List.filter_cons_of_pos (by simpa using hlt),
        List.filter_cons_of_neg (by simpa using hlt.ne),
        List.filter_cons_of_neg (by simpa using hlt.le)]
      exact congrArg (p :: ·) ih
    · rw [List.filter_cons_of_neg (by simpa using heq.ge),
        List.filter_cons_of_pos (by simpa using heq),
        List.filter_cons_of_neg (by simpa using heq.le), hnone heq.ge]
      rw [hnone heq.ge] at ih
      exact congrArg (p :: ·) ih
    · have hother : rest.filter (·.timestamp = t) = [] :=
        List.filter_eq_nil_iff.2 fun q hq => by
          have hpq := hle q hq
          simp only [decide_eq_true_eq]
          omega
      rw [List.filter_cons_of_neg (by simpa using hgt.le),
        List.filter_cons_of_neg (by simpa using hgt.ne'),
        List.filter_cons_of_pos (by simpa using hgt), hnone hgt.le, hother]
      rw [hnone hgt.le, hother] at ih
      exact congrArg (p :: ·) ih

/-- The numbers of a millisecond go on from that of the first identifier, if it is of this
millisecond, and else from zero. -/
theorem sequence_of_chain (t : Nat) {rest : List Parts} (hc : (p :: rest).IsChain Parts.Next) :
    ((p :: rest).filter (·.timestamp = t)).map (·.sequence) =
      List.range' (if p.timestamp = t then p.sequence else 0)
        ((p :: rest).countP (·.timestamp = t)) := by
  induction rest generalizing p with
  | nil =>
    by_cases hp : p.timestamp = t
    · simp [hp]
    · simp [hp]
  | cons q rest ih =>
    obtain ⟨hn, hrest⟩ := List.isChain_cons_cons.1 hc
    have ihq := ih hrest
    by_cases hp : p.timestamp = t
    · rw [List.filter_cons_of_pos (by simpa using hp), List.map_cons,
        List.countP_cons_of_pos (by simpa using hp), if_pos hp, List.range'_succ, ihq]
      rcases hn with ⟨hlt, _⟩ | ⟨heq, hnext⟩
      · -- The next identifier is of a later millisecond, and so are all after it.
        have hcount : (q :: rest).countP (·.timestamp = t) = 0 := by
          refine List.countP_eq_zero.2 fun r hr => ?_
          have hqr : q.timestamp ≤ r.timestamp := by
            rcases List.mem_cons.1 hr with rfl | hlater
            · exact le_refl _
            · exact (List.pairwise_cons.1 (sorted_of_chain hrest)).1 r hlater
          simp only [decide_eq_true_eq]
          omega
        rw [hcount]
        rfl
      · rw [if_pos (heq.trans hp), hnext]
    · rw [List.filter_cons_of_neg (by simpa using hp),
        List.countP_cons_of_neg (by simpa using hp), if_neg hp, ihq]
      have hzero : (if q.timestamp = t then q.sequence else 0) = 0 := by
        split
        case isTrue hq =>
          rcases hn with ⟨_, hfirst⟩ | ⟨heq, _⟩
          · exact hfirst
          · exact absurd (heq.symm.trans hq) hp
        case isFalse => rfl
      rw [hzero]

/-- Identifiers of which the first has the number zero and each is next to the one before are dense
in every millisecond. -/
theorem dense_of_chain {bits : Nat} (hc : shown.IsChain Parts.Next)
    (hfirst : ∀ p ∈ shown.head?, p.sequence = 0) (hfit : ∀ p ∈ shown, p.sequence < 2 ^ bits)
    (t : Nat) : Dense bits shown t := by
  have hnumbered : (shown.filter (·.timestamp = t)).map (·.sequence) =
      List.range (shown.countP (·.timestamp = t)) := by
    cases shown with
    | nil => rfl
    | cons p rest =>
      rw [sequence_of_chain t hc, hfirst p rfl, ite_self, List.range_eq_range']
  refine ⟨eq_append_of_sorted t (sorted_of_chain hc), hnumbered, ?_⟩
  -- The greatest of the numbers is one less than how many there are.
  by_contra hmore
  have hmem : 2 ^ bits ∈ (shown.filter (·.timestamp = t)).map (·.sequence) := by
    rw [hnumbered]
    exact List.mem_range.2 (by omega)
  obtain ⟨p, hp, hsequence⟩ := List.mem_map.1 hmem
  have hlt := hfit p (List.mem_filter.1 hp).1
  omega

/-- The last identifier of a run has the last number of its millisecond. -/
theorem Dense.sequence_last {bits : Nat} {before : List Parts}
    (hd : Dense bits (before ++ [p]) p.timestamp) :
    p.sequence + 1 = (before ++ [p]).countP (·.timestamp = p.timestamp) := by
  have hn := hd.numbered
  have hcount : (before ++ [p]).countP (·.timestamp = p.timestamp) =
      before.countP (·.timestamp = p.timestamp) + 1 := by
    rw [List.countP_append, List.countP_cons_of_pos (by simp), List.countP_nil]
  have hfilter : (before ++ [p]).filter (·.timestamp = p.timestamp) =
      before.filter (·.timestamp = p.timestamp) ++ [p] := by
    rw [List.filter_append, List.filter_cons_of_pos (by simp), List.filter_nil]
  rw [hcount, hfilter, List.map_append, List.range_succ] at hn
  have hlast := (List.append_inj' hn rfl).2
  rw [hcount]
  exact congrArg (· + 1) (List.cons.inj hlast).1

end Chain

namespace Generator

variable {g g' : Generator}

/-- What a number of calls issue, taken apart. -/
def shown (calls : Nat) (g : Generator) (clock : Clock) : List Parts :=
  (issued calls g clock).map g.layout.decompose

/-- A call keeps the epoch. -/
theorem epoch_of_outcome {answer : Except Error Int64} (ho : Outcome g answer g') :
    g'.epoch = g.epoch := by
  cases ho <;> rfl

/-- An identifier shows the parts that its call leaves, and they follow the last ones. -/
theorem Sound.decompose_of_outcome {id : Int64} (hg : g.Sound) (ho : Outcome g (.ok id) g') :
    g.layout.decompose id = g'.parts ∧ (g'.parts.timestamp : Int) = g'.last ∧
      g.Follows g'.last g'.sequence := by
  have hfits := (hg.of_outcome ho).fits
  cases ho with
  | issued time sequence ht hm hf =>
    exact ⟨hfits.decompose_compose, Int.toNat_of_nonneg ht, hf⟩

/-- One more call shows the parts that it leaves, if it issues an identifier. -/
theorem Sound.shown_succ (hg : g.Sound) (calls : Nat) (clock : Clock) :
    (∃ e, (g.generate clock).1 = .error e) ∧ (g.generate clock).2.1 = g ∧
        shown (calls + 1) g clock = shown calls g (g.generate clock).2.2 ∨
      ∃ id, (g.generate clock).1 = .ok id ∧ shown (calls + 1) g clock =
        (g.generate clock).2.1.parts ::
          shown calls (g.generate clock).2.1 (g.generate clock).2.2 := by
  have ho := outcome_generate g clock
  have hlayout := layout_of_outcome ho
  unfold shown
  rw [issued_succ]
  cases ha : (g.generate clock).1 with
  | error e =>
    rw [ha] at ho
    have hsame := eq_of_failed ho
    rw [hsame]
    exact Or.inl ⟨⟨e, rfl⟩, rfl, rfl⟩
  | ok id =>
    rw [ha] at ho
    rw [hlayout, ← (hg.decompose_of_outcome ho).1]
    exact Or.inr ⟨id, rfl, rfl⟩

/-- What a run shows follows the last identifier before it, and each identifier is next to the one
before. -/
theorem Sound.shown_chain (hg : g.Sound) (calls : Nat) (clock : Clock) :
    (shown calls g clock).IsChain Parts.Next ∧
      ∀ p ∈ (shown calls g clock).head?, g.Follows p.timestamp p.sequence := by
  induction calls generalizing g clock with
  | zero => exact ⟨List.isChain_nil, fun p hp => by cases hp⟩
  | succ calls ih =>
    have ho := outcome_generate g clock
    obtain ⟨hchain, hhead⟩ := ih (hg.of_outcome ho) (g.generate clock).2.2
    rcases hg.shown_succ calls clock with ⟨-, hsame, hshown⟩ | ⟨id, ha, hshown⟩
    · rw [hsame] at hchain hhead
      rw [hshown]
      exact ⟨hchain, hhead⟩
    · rw [ha] at ho
      obtain ⟨-, htime, hf⟩ := hg.decompose_of_outcome ho
      rw [hshown]
      refine ⟨List.isChain_cons.2 ⟨fun q hq => ?_, hchain⟩, fun p hp => ?_⟩
      · rcases hhead q hq with ⟨hlt, hzero⟩ | ⟨heq, -, hnext⟩
        · exact Or.inl ⟨by omega, hzero⟩
        · exact Or.inr ⟨by omega, hnext⟩
      · obtain rfl : (g.generate clock).2.1.parts = p := Option.some_inj.1 hp
        rw [htime]
        exact hf

end Generator

namespace Station

variable {s : Station}

/-- Calls keep what holds of a generator between calls, its layout and its epoch. -/
theorem kept_of_calls (hs : s.generator.Sound) (calls : Nat) :
    (called^[calls] s).generator.Sound ∧
      (called^[calls] s).generator.layout = s.generator.layout ∧
      (called^[calls] s).generator.epoch = s.generator.epoch := by
  induction calls generalizing s with
  | zero => exact ⟨hs, rfl, rfl⟩
  | succ calls ih =>
    have ho := Generator.outcome_generate s.generator s.clock
    obtain ⟨hsound, hlayout, hepoch⟩ := ih (s := s.called) (hs.of_outcome ho)
    rw [Function.iterate_succ_apply]
    exact ⟨hsound, hlayout.trans (Generator.layout_of_outcome ho),
      hepoch.trans (Generator.epoch_of_outcome ho)⟩

/-- After some calls the generator holds the parts of the last identifier that was issued, and if
there was none it is as it was. -/
theorem last_shown (hs : s.generator.Sound) (calls : Nat) :
    (Generator.shown calls s.generator s.clock = [] ∧
        (called^[calls] s).generator = s.generator) ∨
      ∃ before, Generator.shown calls s.generator s.clock =
        before ++ [(called^[calls] s).generator.parts] ∧
          ((called^[calls] s).generator.parts.timestamp : Int) =
            (called^[calls] s).generator.last := by
  induction calls generalizing s with
  | zero => exact Or.inl ⟨rfl, rfl⟩
  | succ calls ih =>
    have ho := Generator.outcome_generate s.generator s.clock
    have hrest := ih (s := s.called) (hs.of_outcome ho)
    rw [Function.iterate_succ_apply]
    rcases hs.shown_succ calls s.clock with ⟨-, hsame, hshown⟩ | ⟨id, ha, hshown⟩
    · rw [hshown]
      have hgenerator : s.called.generator = s.generator := hsame
      rw [hgenerator] at hrest
      exact hrest
    · rw [hshown]
      right
      rcases hrest with ⟨hnone, hgenerator⟩ | ⟨before, hbefore, htime⟩
      · rw [ha] at ho
        refine ⟨[], ?_, ?_⟩
        · rw [hgenerator]
          exact congrArg (_ :: ·) hnone
        · rw [hgenerator]
          exact (hs.decompose_of_outcome ho).2.1
      · exact ⟨_ :: before, congrArg (_ :: ·) hbefore, htime⟩

/-- What an identifier with these parts shows of the call that issued it, if `shown` was issued
before. -/
structure Timely (s : Station) (shown : List Parts) (p : Parts) : Prop where
  /-- It has the time of the last reading that the call took, which is its distance to the epoch
  wherever that is a signed number of 64 bits. -/
  read : ∃ passed reading, s.generator.Took s.clock passed reading s.called.clock ∧
    (p.timestamp : Int) = s.generator.elapsed reading ∧
    (-2 ^ 63 ≤ reading - s.generator.epoch → reading - s.generator.epoch < 2 ^ 63 →
      (p.timestamp : Int) = reading - s.generator.epoch)
  /-- Where the call finds the clock at a time of which all numbers are used up, the identifier has
  a later time and the number zero. -/
  full : ∀ t : Nat,
    shown.countP (·.timestamp = t) = 2 ^ s.generator.layout.sequenceBits →
      s.generator.elapsed s.clock.tick.1 = t → t < p.timestamp ∧ p.sequence = 0

/-- An identifier with the time of a reading that is taken during its call. -/
theorem read_of_generate {id : Int64} (hi : (s.generator.generate s.clock).1 = .ok id) :
    ∃ passed reading, s.generator.Took s.clock passed reading s.called.clock ∧
      ((s.generator.layout.decompose id).timestamp : Int) = s.generator.elapsed reading ∧
      (-2 ^ 63 ≤ reading - s.generator.epoch → reading - s.generator.epoch < 2 ^ 63 →
        ((s.generator.layout.decompose id).timestamp : Int) =
          reading - s.generator.epoch) := by
  obtain ⟨passed, reading, htook, htime⟩ := s.generator.took_generate s.clock
  exact ⟨passed, reading, htook, htime id hi,
    fun hlow hhigh => (htime id hi).trans (s.generator.elapsed_eq hlow hhigh)⟩

/-- After all numbers of a millisecond were issued, a call that finds the clock still there issues
an identifier of a later one, with the number zero, if it issues any. -/
theorem later_of_full {bits t : Nat} {before : List Parts} {id : Int64}
    (hs : s.generator.Sound)
    (hlast : (s.generator.parts.timestamp : Int) = s.generator.last)
    (hc : (before ++ [s.generator.parts]).IsChain Parts.Next)
    (hd : Dense bits (before ++ [s.generator.parts]) s.generator.parts.timestamp)
    (hfull : (before ++ [s.generator.parts]).countP (·.timestamp = t) =
      2 ^ s.generator.layout.sequenceBits)
    (hclock : s.generator.elapsed s.clock.tick.1 = t)
    (hi : (s.generator.generate s.clock).1 = .ok id) :
    t < (s.generator.layout.decompose id).timestamp ∧
      (s.generator.layout.decompose id).sequence = 0 := by
  have ho := Generator.outcome_generate s.generator s.clock
  rw [hi] at ho
  obtain ⟨hparts, htime, hf⟩ := hs.decompose_of_outcome ho
  have hpos := Nat.two_pow_pos s.generator.layout.sequenceBits
  obtain ⟨p, hp, hpt⟩ := List.countP_pos_iff.1 (hfull ▸ hpos)
  have hpt : p.timestamp = t := of_decide_eq_true hpt
  -- The last identifier is not of an earlier millisecond than any before it.
  have hle : p.timestamp ≤ s.generator.parts.timestamp := by
    rcases List.mem_append.1 hp with hbefore | hend
    · obtain ⟨-, -, hsorted⟩ := List.pairwise_append.1 (sorted_of_chain hc)
      exact hsorted p hbefore _ (List.mem_singleton_self _)
    · rw [List.mem_singleton.1 hend]
  rcases Nat.lt_or_eq_of_le hle with hlt | heq
  · have hbehind := s.generator.error_of_behind s.clock (by omega)
    rw [hi] at hbehind
    cases hbehind
  · have hcount := hd.sequence_last
    rw [← heq, hpt, hfull] at hcount
    have hused : s.generator.parts.sequence = s.generator.layout.maxSequence := by
      unfold Layout.maxSequence
      omega
    rw [hparts]
    rcases hf with ⟨hlater, hzero⟩ | ⟨-, hroom, -⟩
    · exact ⟨by omega, hzero⟩
    · exact absurd hused hroom.ne

end Station

namespace Generator

variable {g : Generator}

/-- From the moment a generator is set up, on any clock and after any number of calls: the
identifiers of every millisecond were issued one after the other with the numbers from zero on, of
which there are enough, and an identifier that the next call issues has the time of a reading taken
during that call, which is a later one if the call found the clock at a time of which all numbers
were used up. -/
theorem sequences_dense {layout : Layout} {worker : Nat} {epoch : String} {clock rest : Clock}
    (hs : start layout worker epoch clock = .ok (g, rest)) (calls : Nat) :
    (∀ t, Dense layout.sequenceBits (shown calls g rest) t) ∧
    ∀ s : Station, s = Station.called^[calls] ⟨g, rest⟩ →
      s.generator.layout = layout ∧
      (∃ time, Timestamp.parse epoch = .ok time ∧ s.generator.epoch = time.millis) ∧
      ∀ id, (s.generator.generate s.clock).1 = .ok id →
        s.Timely (shown calls g rest) (layout.decompose id) := by
  have hsound := sound_of_start hs
  have hlayout := layout_of_start hs
  obtain ⟨time, hparse, hepoch, hnew⟩ : ∃ time, Timestamp.parse epoch = .ok time ∧
      g.epoch = time.millis ∧ g.last = -1 := by
    obtain ⟨time, fits, hparse, rfl⟩ := eq_of_start hs
    exact ⟨time, hparse, rfl, rfl⟩
  obtain ⟨hchain, hhead⟩ := hsound.shown_chain calls rest
  have hdense : ∀ t, Dense layout.sequenceBits (shown calls g rest) t := by
    refine dense_of_chain hchain (fun p hp => ?_) (fun p hp => ?_)
    · rcases hhead p hp with ⟨-, hzero⟩ | ⟨hsame, -, -⟩
      · exact hzero
      · omega
    · obtain ⟨id, -, rfl⟩ := List.mem_map.1 hp
      rw [← hlayout]
      exact Nat.mod_lt _ (Nat.two_pow_pos _)
  refine ⟨hdense, fun s hstation => ?_⟩
  subst hstation
  generalize hstation : Station.called^[calls] ⟨g, rest⟩ = s
  obtain ⟨hsound', hlayout', hepoch'⟩ := Station.kept_of_calls (s := ⟨g, rest⟩) hsound calls
  rw [hstation] at hsound' hlayout' hepoch'
  have hsame : s.generator.layout = layout := hlayout'.trans hlayout
  refine ⟨hsame, ⟨time, hparse, hepoch'.trans hepoch⟩, fun id hi => ?_⟩
  rw [← hsame]
  refine ⟨Station.read_of_generate hi, fun t hfull hclock => ?_⟩
  rcases Station.last_shown (s := ⟨g, rest⟩) hsound calls with ⟨hnone, -⟩ | ⟨before, hb, hlast⟩
  · -- Some number of the millisecond was used, so the run has shown something.
    have hpos := Nat.two_pow_pos s.generator.layout.sequenceBits
    rw [← hfull, hnone] at hpos
    exact absurd hpos (Nat.lt_irrefl 0)
  · rw [hstation] at hb hlast
    rw [hb] at hchain hfull
    have hd := hdense s.generator.parts.timestamp
    rw [hb] at hd
    exact Station.later_of_full hsound' hlast hchain hd hfull hclock hi

/-- The clock stays at 5 until both numbers of it are used. The third call takes three readings and
issues the first identifier of 6. -/
theorem sequences_dense_of_full :
    start narrow 1 "1970-01-01T00:00:00Z" ⟨[0, 5, 5, 5, 5, 6, 6], 0⟩ =
      .ok (first, ⟨[5, 5, 5, 5, 6, 6], 0⟩) ∧
    shown 4 first ⟨[5, 5, 5, 5, 6, 6], 0⟩ = [⟨5, 1, 0⟩, ⟨5, 1, 1⟩, ⟨6, 1, 0⟩, ⟨6, 1, 1⟩] ∧
    (∀ t, Dense 1 (shown 4 first ⟨[5, 5, 5, 5, 6, 6], 0⟩) t) ∧
    (Station.called^[2] ⟨first, ⟨[5, 5, 5, 5, 6, 6], 0⟩⟩).Timely
      [⟨5, 1, 0⟩, ⟨5, 1, 1⟩] ⟨6, 1, 0⟩ := by
  have hs : start narrow 1 "1970-01-01T00:00:00Z" ⟨[0, 5, 5, 5, 5, 6, 6], 0⟩ =
      .ok (first, ⟨[5, 5, 5, 5, 6, 6], 0⟩) := rfl
  refine ⟨hs, by decide, (sequences_dense hs 4).1, ?_⟩
  obtain ⟨-, -, htimely⟩ := (sequences_dense hs 2).2 _ rfl
  exact htimely 26 (by decide)

end Generator

end Forum.Identifier
