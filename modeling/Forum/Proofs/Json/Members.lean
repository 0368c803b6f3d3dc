import Mathlib
import Forum.Json.Fields
import Forum.Proofs.Json.Escapes
import Forum.Proofs.Text.Utf8

/-!
# Members of a compact object

Reading one text field after the other out of an object that is written without blanks. A member
whose name is that of a field not found yet adds its text to what was found, and the brace at the
end is accepted once no field is missing.
-/

namespace Forum.Json

/-- A member with a text, written without blanks, and what follows. -/
def memberThen (name : String) (written rest : List Char) : List Char :=
  '"' :: (name.toList ++ '"' :: ':' :: '"' :: (written ++ '"' :: rest))

/-- Whether a text can stand in quotes as it is. -/
def IsPlain (s : String) : Prop :=
  ∀ c ∈ s.toList, c ≠ '"' ∧ c ≠ '\\' ∧ 0x20 ≤ c.toNat

variable {fields : List Field} {name : String} {found : Found} {text written : List Char}

/-- A character that is no blank is not skipped. -/
theorem skipBlanks_cons {c : Char} (h : isBlank c = false) (cs : List Char) :
    skipBlanks (c :: cs) = c :: cs := by
  rw [skipBlanks, List.dropWhile_cons_of_neg (by rw [h]; exact Bool.false_ne_true)]

/-- A name that can stand in quotes as it is is read as it is. -/
theorem string?_of_plain (plain : IsPlain name) (rest : List Char) :
    string? (name.toList ++ '"' :: rest) = some (name, rest) := by
  rw [string?_of_writesText (writesText_self plain), String.ofList_toList]

/-- A value in quotes is read as its text. -/
theorem readText_of_writesText (h : WritesText text written) (rest : List Char) :
    readText ('"' :: (written ++ '"' :: rest)) = .ok (String.ofList text, rest) := by
  change (string? (written ++ '"' :: rest)).elim (Except.error Problem.malformed) Except.ok = _
  rw [string?_of_writesText h]
  rfl

section member

variable (plain : IsPlain name) (known : fields.any (·.name = name))
  (new : found.has fields name = false) (h : WritesText text written) (steps : Nat)

include known h

/-- The value of a member that is a field is added to what was found. -/
theorem readMember_of_writesText (rest : List Char) :
    readMember fields steps name found ('"' :: (written ++ '"' :: rest)) =
      .ok ((found.add? fields name (String.ofList text)).getD found, rest) := by
  rw [readMember, if_pos known, readText_of_writesText h]
  rfl

include plain new

/-- Reading goes on behind a member that is a field not found yet. -/
theorem readMembers_memberThen_comma (rest : List Char) :
    readMembers fields (steps + 1) found (memberThen name written (',' :: rest)) =
      readMembers fields steps ((found.add? fields name (String.ofList text)).getD found) rest := by
  simp only [readMembers, memberThen, string?_of_plain plain, new, Bool.false_eq_true, if_false,
    readMember_of_writesText known h, skipBlanks_cons (c := '"') rfl,
    skipBlanks_cons (c := ':') rfl, skipBlanks_cons (c := ',') rfl]

/-- Behind the last member the object is complete, or a field is missing. -/
theorem readMembers_memberThen_close :
    readMembers fields (steps + 1) found (memberThen name written ['\x7d']) =
      (((found.add? fields name (String.ofList text)).getD found).complete fields).map
        (·, []) := by
  simp only [readMembers, memberThen, string?_of_plain plain, new, Bool.false_eq_true, if_false,
    readMember_of_writesText known h, skipBlanks_cons (c := '"') rfl,
    skipBlanks_cons (c := ':') rfl, skipBlanks_cons (c := '\x7d') rfl]

end member

/-! ## Objects with two members -/

/-- An object with two members, written without blanks. -/
def pairChars (name name' : String) (written written' : List Char) : List Char :=
  '\x7b' :: memberThen name written (',' :: memberThen name' written' ['\x7d'])

/-- A member has no control character in it, if what follows has none. -/
theorem no_control_memberThen (plain : IsPlain name) (h : WritesText text written)
    {rest : List Char} (hrest : ∀ c ∈ rest, 0x20 ≤ c.toNat) :
    ∀ c ∈ memberThen name written rest, 0x20 ≤ c.toNat := by
  have hname : ∀ c ∈ name.toList, 0x20 ≤ c.toNat := fun c hc => (plain c hc).2.2
  have hquote : 0x20 ≤ ('"' : Char).toNat := by decide
  have hcolon : 0x20 ≤ (':' : Char).toNat := by decide
  simp only [memberThen, List.forall_mem_cons, List.forall_mem_append]
  exact ⟨hquote, hname, hquote, hcolon, hquote, h.no_control, hquote, hrest⟩

/-- Neither has an object with two members. -/
theorem no_control_pairChars {name' : String} {text' written' : List Char} (plain : IsPlain name)
    (plain' : IsPlain name') (h : WritesText text written) (h' : WritesText text' written') :
    ∀ c ∈ pairChars name name' written written', 0x20 ≤ c.toNat := by
  have hclose : ∀ c ∈ ['\x7d'], 0x20 ≤ c.toNat := List.forall_mem_singleton.2 (by decide)
  have hcomma : 0x20 ≤ (',' : Char).toNat := by decide
  have hopen : 0x20 ≤ ('\x7b' : Char).toNat := by decide
  have hsecond := no_control_memberThen plain' h' hclose
  have hboth := no_control_memberThen plain h (List.forall_mem_cons.2 ⟨hcomma, hsecond⟩)
  exact List.forall_mem_cons.2 ⟨hopen, hboth⟩

/-- A body whose bytes are those of a text without control characters has the characters of the
text. -/
theorem bodyChars_encode {cs : List Char} (h : ∀ c ∈ cs, 0x20 ≤ c.toNat) :
    bodyChars (Utf8.encode (String.ofList cs)) = cs := by
  rw [bodyChars, Utf8.parts_encode, String.toList_ofList, List.map_map]
  refine (List.map_congr_left fun c hc => ?_).trans (List.map_id cs)
  have hreadable : c ≠ unreadable := by
    rintro rfl
    exact absurd (h _ hc) (by decide)
  exact if_neg hreadable

/-- Reading such an object takes in both texts, in whichever order the fields are. -/
theorem readFields_pairChars {name' : String} {text' written' : List Char} {found' : Found}
    (plain : IsPlain name) (plain' : IsPlain name') (known : fields.any (·.name = name))
    (known' : fields.any (·.name = name')) (h : WritesText text written)
    (h' : WritesText text' written')
    (first : Found.add? fields name (String.ofList text) (fields.map fun _ => none) = some found)
    (second : Found.add? fields name' (String.ofList text') found = some found')
    (new : Found.has fields name (fields.map fun _ => none) = false)
    (new' : found.has fields name' = false) :
    readFields fields (Utf8.encode (String.ofList (pairChars name name' written written'))) =
      found'.complete fields := by
  obtain ⟨steps, hsteps⟩ : ∃ steps,
      (memberThen name written (',' :: memberThen name' written' ['\x7d'])).length = steps + 1 :=
    ⟨_, List.length_cons⟩
  have hobject : readObject fields (memberThen name written
      (',' :: memberThen name' written' ['\x7d'])) = (found'.complete fields).map (·, []) := by
    change readMembers fields ((memberThen name written (',' :: memberThen name' written'
      ['\x7d'])).length + 1) _ (memberThen name written _) = _
    rw [hsteps, readMembers_memberThen_comma plain known new h, first, Option.getD_some,
      readMembers_memberThen_close plain' known' new' h', second, Option.getD_some]
  rw [readFields, bodyChars_encode (no_control_pairChars plain plain' h h')]
  simp only [pairChars, skipBlanks_cons (c := '\x7b') rfl, hobject]
  cases found'.complete fields <;> rfl

/-- A member takes six bytes for each character of its text at most, besides its name. -/
theorem utf8Len_memberThen_le (name : String) (h : WritesText text written) (rest : List Char) :
    String.utf8Len (memberThen name written rest) ≤
      name.utf8ByteSize + 5 + 6 * text.length + String.utf8Len rest := by
  have hle := h.utf8Len_le
  have hquote : ('"' : Char).utf8Size = 1 := by decide
  have hcolon : (':' : Char).utf8Size = 1 := by decide
  simp only [memberThen, String.utf8Len_cons, String.utf8Len_append, String.utf8Len_toList]
  omega

/-- So an object with two members has a length that depends on their names and on the characters of
their texts only. -/
theorem utf8Len_pairChars_le (name name' : String) {text' written' : List Char}
    (h : WritesText text written) (h' : WritesText text' written') :
    String.utf8Len (pairChars name name' written written') ≤
      name.utf8ByteSize + name'.utf8ByteSize + 13 + 6 * (text.length + text'.length) := by
  have hfirst := utf8Len_memberThen_le name h (',' :: memberThen name' written' ['\x7d'])
  have hsecond := utf8Len_memberThen_le name' h' ['\x7d']
  have hopen : ('\x7b' : Char).utf8Size = 1 := by decide
  have hcomma : (',' : Char).utf8Size = 1 := by decide
  have hclose : String.utf8Len ['\x7d'] = 1 := by decide
  rw [String.utf8Len_cons] at hfirst
  rw [pairChars, String.utf8Len_cons]
  omega

end Forum.Json
