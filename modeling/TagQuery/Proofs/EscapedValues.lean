import TagQuery.Query.LikePatterns

/-!
Escaped values read back. Which texts are escaped values can be told by reading from left
to right: characters with a meaning stand behind a backslash, and nothing else does.

* `Like.unescapeChars_escapeChars`: dropping the backslashes gives the value back;
* `Like.escapeChars_unescapeChars`: a text that reads so is the escaped value of what it
  reads as;
* `Like.escaped_values_read_back`: **the two undo each other, and the escaped values are
  just the texts that read so**;
* `Term.likePattern_eq_escapedRaw`: **where a term is cut into pieces does not matter to
  its pattern.**
-/

namespace TagQuery

namespace Like

/-- Drops each backslash and keeps the character after it. -/
def unescapeChars : List Char → List Char
  | [] => []
  | ['\\'] => []
  | '\\' :: c :: cs => c :: unescapeChars cs
  | c :: cs => c :: unescapeChars cs

def unescape (value : String) : String := String.ofList (unescapeChars value.toList)

/-- From left to right, characters without a meaning, and pairs of a backslash and a
character with one. -/
inductive IsEscaped : List Char → Prop
  | nil : IsEscaped []
  | plain {c : Char} {cs : List Char} : ¬isSpecial c → IsEscaped cs → IsEscaped (c :: cs)
  | pair {c : Char} {cs : List Char} : isSpecial c → IsEscaped cs → IsEscaped ('\\' :: c :: cs)

/-! ## From a value -/

theorem unescapeChars_plain {c : Char} (hc : ¬isSpecial c) (cs : List Char) :
    unescapeChars (c :: cs) = c :: unescapeChars cs := by
  have hback : c ≠ '\\' := by
    rintro rfl
    exact hc (by decide)
  rw [unescapeChars]
  · rintro h -
    exact hback h
  · rintro d rest h -
    exact hback h

theorem unescapeChars_escapeChar_append (c : Char) (cs : List Char) :
    unescapeChars (escapeChar c ++ cs) = c :: unescapeChars cs := by
  unfold escapeChar
  split
  · rfl
  next hc => exact unescapeChars_plain hc cs

theorem unescapeChars_escapeChars (cs : List Char) : unescapeChars (escapeChars cs) = cs := by
  induction cs with
  | nil => rfl
  | cons c cs ih => rw [escapeChars_cons, unescapeChars_escapeChar_append, ih]

theorem IsEscaped.escapeChar_append {cs : List Char} (h : IsEscaped cs) (c : Char) :
    IsEscaped (escapeChar c ++ cs) := by
  unfold escapeChar
  split
  next hc => exact .pair hc h
  next hc => exact .plain hc h

theorem isEscaped_escapeChars (cs : List Char) : IsEscaped (escapeChars cs) := by
  induction cs with
  | nil => exact .nil
  | cons c cs ih =>
    rw [escapeChars_cons]
    exact ih.escapeChar_append c

/-! ## Back to a value -/

theorem escapeChars_unescapeChars {cs : List Char} (h : IsEscaped cs) :
    escapeChars (unescapeChars cs) = cs := by
  induction h with
  | nil => rfl
  | @plain c cs hc _ ih =>
    rw [unescapeChars_plain hc, escapeChars_cons, ih, escapeChar, if_neg hc, List.singleton_append]
  | @pair c cs hc _ ih =>
    rw [unescapeChars, escapeChars_cons, ih, escapeChar, if_pos hc]
    rfl

theorem isEscaped_iff (cs : List Char) : IsEscaped cs ↔ escapeChars (unescapeChars cs) = cs := by
  constructor
  · exact escapeChars_unescapeChars
  · intro h
    rw [← h]
    exact isEscaped_escapeChars _

instance (cs : List Char) : Decidable (IsEscaped cs) := decidable_of_iff' _ (isEscaped_iff cs)

/-- **Escaped values read back.** Every value is the one that its escaped form reads as, and
the escaped forms are the texts that are made of plain characters and pairs; each of them
is the escaped form of what it reads as. -/
theorem escaped_values_read_back (value text : String) :
    unescape (escape value) = value ∧
      ((∃ v, escape v = text) ↔ IsEscaped text.toList) ∧
      (escape (unescape text) = text ↔ IsEscaped text.toList) := by
  have hback : escape (unescape text) = text ↔ IsEscaped text.toList := by
    rw [isEscaped_iff, ← String.toList_inj, toList_escape, unescape, String.toList_ofList]
  refine ⟨?_, ⟨?_, fun h => ⟨_, hback.mpr h⟩⟩, hback⟩
  · rw [unescape, toList_escape, unescapeChars_escapeChars, String.ofList_toList]
  · rintro ⟨v, rfl⟩
    rw [toList_escape]
    exact isEscaped_escapeChars v.toList

/-- A backslash of the value is doubled, so that it takes no part in what comes after it. -/
example : escape "\\%" = "\\\\\\%" ∧ unescape "\\\\\\%" = "\\%" ∧ ¬IsEscaped "\\\\%".toList := by
  decide

end Like

namespace Term

/-- **The pattern of a term does not depend on its pieces**: escaped one by one and put
together they are what their text is when it is escaped as a whole, also where a
backslash ends one piece and a wildcard begins the next. -/
theorem likePattern_eq_escapedRaw (t : Term) : t.likePattern = t.escapedRaw := by
  calc t.likePattern = String.join (t.pieces.map Like.escape) := rfl
    _ = Like.escape (String.join t.pieces) := (Like.escape_join t.pieces).symm
    _ = t.escapedRaw := rfl

end Term

end TagQuery
