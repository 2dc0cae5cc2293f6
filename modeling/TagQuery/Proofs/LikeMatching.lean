import Mathlib.Data.List.Infix
import TagQuery.Query.LikePatterns

/-!
What `LIKE` patterns match, and what the patterns of a term match.

* `Like.Matches`: the texts that a pattern matches, as a relation with one case for
  each kind of character in a pattern; `Like.fits` decides it by trying all runs;
* `Like.matches_escapeChars_append`: an escaped value in front of a pattern takes just
  itself;
* `Term.matches_likePattern_titlePattern`: **the pattern of a term matches its text and
  nothing else, the pattern for titles all that contains it.**
-/

namespace TagQuery

namespace Like

/-- A pattern matches a whole text. A backslash makes the next character plain; one at
the end of a pattern matches nothing. -/
inductive Matches : List Char → List Char → Prop
  | nil : Matches [] []
  | plain {c : Char} {pattern text : List Char} :
      ¬isSpecial c → Matches pattern text → Matches (c :: pattern) (c :: text)
  | escaped {c : Char} {pattern text : List Char} :
      Matches pattern text → Matches ('\\' :: c :: pattern) (c :: text)
  | one {c : Char} {pattern text : List Char} :
      Matches pattern text → Matches ('_' :: pattern) (c :: text)
  | any {pattern text : List Char} (run : List Char) :
      Matches pattern text → Matches ('%' :: pattern) (run ++ text)

theorem matches_nil_iff (text : List Char) : Matches [] text ↔ text = [] := by
  constructor
  · intro h
    cases h
    rfl
  · rintro rfl
    exact .nil

theorem matches_plain_iff {c : Char} (hc : ¬isSpecial c) (pattern text : List Char) :
    Matches (c :: pattern) text ↔ ∃ rest, text = c :: rest ∧ Matches pattern rest := by
  constructor
  · intro h
    cases h with
    | plain _ h => exact ⟨_, rfl, h⟩
    | escaped => exact absurd (by decide) hc
    | one => exact absurd (by decide) hc
    | any => exact absurd (by decide) hc
  · rintro ⟨rest, rfl, h⟩
    exact .plain hc h

theorem matches_escaped_iff (c : Char) (pattern text : List Char) :
    Matches ('\\' :: c :: pattern) text ↔ ∃ rest, text = c :: rest ∧ Matches pattern rest := by
  constructor
  · intro h
    cases h with
    | plain hc => exact absurd (by decide) hc
    | escaped h => exact ⟨_, rfl, h⟩
  · rintro ⟨rest, rfl, h⟩
    exact .escaped h

theorem matches_one_iff (pattern text : List Char) :
    Matches ('_' :: pattern) text ↔ ∃ c rest, text = c :: rest ∧ Matches pattern rest := by
  constructor
  · intro h
    cases h with
    | plain hc => exact absurd (by decide) hc
    | one h => exact ⟨_, _, rfl, h⟩
  · rintro ⟨c, rest, rfl, h⟩
    exact .one h

theorem matches_any_iff (pattern text : List Char) :
    Matches ('%' :: pattern) text ↔ ∃ rest, rest <:+ text ∧ Matches pattern rest := by
  constructor
  · intro h
    cases h with
    | plain hc => exact absurd (by decide) hc
    | any run h => exact ⟨_, List.suffix_append run _, h⟩
  · rintro ⟨rest, ⟨run, rfl⟩, h⟩
    exact .any run h

/-! ## Trying all runs -/

/-- Does a pattern match a text? For a `%` every end of the text is tried. -/
def fits : List Char → List Char → Bool
  | [], text => text.isEmpty
  | c :: pattern, text =>
    if c = '%' then text.tails.any (fits pattern)
    else if c = '_' then text.tail?.any (fits pattern)
    else if c = '\\' then
      match pattern with
      | [] => false
      | d :: pattern => text.head? = some d && fits pattern text.tail
    else text.head? = some c && fits pattern text.tail

private theorem exists_eq_cons_iff (c : Char) (text : List Char) (p : List Char → Prop) :
    (∃ rest, text = c :: rest ∧ p rest) ↔ text.head? = some c ∧ p text.tail := by
  cases text with
  | nil => simp
  | cons d rest =>
    simp only [List.cons.injEq, List.head?_cons, Option.some.injEq, List.tail_cons]
    constructor
    · rintro ⟨_, ⟨rfl, rfl⟩, h⟩
      exact ⟨rfl, h⟩
    · rintro ⟨rfl, h⟩
      exact ⟨rest, ⟨rfl, rfl⟩, h⟩

theorem fits_iff : ∀ pattern text : List Char, fits pattern text = true ↔ Matches pattern text
  | [], text => by rw [fits, List.isEmpty_iff, matches_nil_iff]
  | c :: pattern, text => by
    unfold fits
    split
    next hany =>
      subst hany
      rw [List.any_eq_true, matches_any_iff]
      simp only [List.mem_tails, fits_iff pattern]
    next hany =>
    split
    next hone =>
      subst hone
      rw [matches_one_iff]
      cases text <;> simp [fits_iff pattern]
    next hone =>
    split
    next hback =>
      subst hback
      cases pattern with
      | nil =>
        refine ⟨fun h => absurd h (by simp), fun h => ?_⟩
        cases h with
        | plain hc => exact absurd (by decide) hc
      | cons d pattern =>
        rw [matches_escaped_iff, exists_eq_cons_iff]
        simp [fits_iff pattern]
    next hback =>
      have hc : ¬isSpecial c := by simp [isSpecial, hany, hone, hback]
      rw [matches_plain_iff hc, exists_eq_cons_iff]
      simp [fits_iff pattern]

instance (pattern text : List Char) : Decidable (Matches pattern text) :=
  decidable_of_iff _ (fits_iff pattern text)

/-! ## Escaped values -/

/-- An escaped character takes that character, whether it has a meaning or not. -/
theorem matches_escapeChar_append (c : Char) (pattern text : List Char) :
    Matches (escapeChar c ++ pattern) text ↔ ∃ rest, text = c :: rest ∧ Matches pattern rest := by
  unfold escapeChar
  split
  · exact matches_escaped_iff c pattern text
  next hc => exact matches_plain_iff hc pattern text

/-- **An escaped value takes itself**, whatever comes after it in the pattern. -/
theorem matches_escapeChars_append (value pattern text : List Char) :
    Matches (escapeChars value ++ pattern) text ↔
      ∃ rest, text = value ++ rest ∧ Matches pattern rest := by
  induction value generalizing text with
  | nil => simp [escapeChars_eq]
  | cons c value ih =>
    rw [escapeChars_cons, List.append_assoc, matches_escapeChar_append]
    constructor
    · rintro ⟨tail, rfl, htail⟩
      obtain ⟨rest, rfl, hrest⟩ := (ih tail).mp htail
      exact ⟨rest, rfl, hrest⟩
    · rintro ⟨rest, rfl, hrest⟩
      exact ⟨value ++ rest, rfl, (ih _).mpr ⟨rest, rfl, hrest⟩⟩

theorem matches_escapeChars_iff (value text : List Char) :
    Matches (escapeChars value) text ↔ text = value := by
  have h := matches_escapeChars_append value [] text
  simpa only [List.append_nil, matches_nil_iff, exists_eq_right] using h

theorem matches_any_nil (text : List Char) : Matches ['%'] text :=
  (matches_any_iff [] text).mpr ⟨[], List.nil_suffix, .nil⟩

/-- Between two wildcards an escaped value takes any text around it. -/
theorem matches_contained_iff (value text : List Char) :
    Matches ('%' :: (escapeChars value ++ ['%'])) text ↔ value <:+: text := by
  rw [matches_any_iff, List.infix_iff_prefix_suffix]
  constructor
  · rintro ⟨rest, hsuffix, h⟩
    obtain ⟨tail, rfl, _⟩ := (matches_escapeChars_append value ['%'] rest).mp h
    exact ⟨_, List.prefix_append value tail, hsuffix⟩
  · rintro ⟨rest, ⟨tail, rfl⟩, hsuffix⟩
    have h := (matches_escapeChars_append value ['%'] (value ++ tail)).mpr
      ⟨tail, rfl, matches_any_nil tail⟩
    exact ⟨_, hsuffix, h⟩

end Like

namespace Term

theorem toList_likePattern (t : Term) : t.likePattern.toList = Like.escapeChars t.raw.toList := by
  rw [likePattern, likeFragments, ← Like.escape_join, Like.toList_escape, raw]

/-- **The patterns of a term**: one matches its text and nothing else, the one for titles
matches the texts that contain it. -/
theorem matches_likePattern_titlePattern (t : Term) (text : String) :
    (Like.Matches t.likePattern.toList text.toList ↔ text = t.raw) ∧
      (Like.Matches t.titlePattern.toList text.toList ↔ t.raw.toList <:+: text.toList) := by
  constructor
  · rw [toList_likePattern, Like.matches_escapeChars_iff, String.toList_inj]
  · have htitle : t.titlePattern.toList = '%' :: (Like.escapeChars t.raw.toList ++ ['%']) := by
      simp [titlePattern, toList_likePattern]
    rw [htitle, Like.matches_contained_iff]

/-- A backslash at the end of one piece does not reach the percent of the next. -/
example : Like.Matches (likePattern ⟨["5\\", "%"], {}⟩).toList "5\\%".toList ∧
    ¬Like.Matches (likePattern ⟨["5\\", "%"], {}⟩).toList "5\\6".toList ∧
    Like.Matches (titlePattern ⟨["5\\", "%"], {}⟩).toList "at 5\\%".toList := by
  decide +kernel

end Term

end TagQuery
