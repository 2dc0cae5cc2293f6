import TagQuery.Proofs.LikeMatching

/-!
Which tags the patterns for tags match.

A tag of several words should be found by its start and by each of its words. The three
patterns for words hold spaces but no wildcard, so each of them matches one text only.

* `Like.IsWord`: a text stands in another between spaces or the ends;
* `Term.start_or_word_of_tagPattern`: no pattern matches a tag without the term as its
  start or as a word;
* `Term.tagPatterns_find_iff`: **the tags that some pattern matches, and that words of
  longer tags are missed**.
-/

namespace TagQuery

namespace Like

/-- The word stands in the text after its start or a space and before its end or a space. -/
def IsWord (word text : List Char) : Prop :=
  ∃ before after, text = before ++ word ++ after ∧
    (before = [] ∨ before.getLast? = some ' ') ∧ (after = [] ∨ after.head? = some ' ')

theorem isWord_after_space (word : List Char) : IsWord word (' ' :: word) :=
  ⟨[' '], [], by simp, .inr rfl, .inl rfl⟩

theorem isWord_between_spaces (word : List Char) : IsWord word (' ' :: word ++ [' ']) :=
  ⟨[' '], [' '], rfl, .inr rfl, .inr rfl⟩

/-! ## The shapes of the patterns -/

section Shapes

variable (value text : List Char)

theorem matches_start_iff : Matches (escapeChars value ++ ['%']) text ↔ value <+: text := by
  rw [matches_escapeChars_append]
  constructor
  · rintro ⟨rest, rfl, _⟩
    exact List.prefix_append value rest
  · rintro ⟨rest, rfl⟩
    exact ⟨rest, rfl, matches_any_nil rest⟩

theorem matches_space_iff (pattern : List Char) :
    Matches (' ' :: pattern) text ↔ ∃ rest, text = ' ' :: rest ∧ Matches pattern rest :=
  matches_plain_iff (by decide) pattern text

theorem matches_before_space_iff :
    Matches (escapeChars value ++ [' ']) text ↔ text = value ++ [' '] := by
  rw [matches_escapeChars_append]
  simp only [matches_space_iff, matches_nil_iff, exists_eq_right]

end Shapes

end Like

namespace Term

/-- The tags that the patterns for tags match: those that start with the term, and the
term itself after a space or between two. -/
theorem exists_tagPattern_iff (t : Term) (tag : String) :
    (∃ p ∈ t.tagPatterns, Like.Matches p.toList tag.toList) ↔
      t.raw.toList <+: tag.toList ∨ tag.toList = ' ' :: t.raw.toList ∨
        tag.toList = ' ' :: t.raw.toList ++ [' '] := by
  -- A space after the term is a case of the term at the start.
  have hbefore : tag.toList = t.raw.toList ++ [' '] → t.raw.toList <+: tag.toList := by
    intro h
    rw [h]
    exact List.prefix_append _ _
  simp only [tagPatterns, List.mem_cons, List.not_mem_nil, or_false, exists_eq_or_imp,
    exists_eq_left, escapedRaw, String.toList_append, Like.toList_escape, String.reduceToList,
    List.cons_append, List.nil_append, Like.matches_start_iff, Like.matches_space_iff,
    Like.matches_before_space_iff, Like.matches_escapeChars_iff, exists_eq_right]
  constructor
  · rintro (h | h | h | h)
    · exact .inl h
    · exact .inr (.inr h)
    · exact .inr (.inl h)
    · exact .inl (hbefore h)
  · rintro (h | h | h)
    · exact .inl h
    · exact .inr (.inr (.inl h))
    · exact .inr (.inl h)

/-- No other tags are found than those that start with the term or have it as a word. -/
theorem start_or_word_of_tagPattern {t : Term} {tag : String}
    (h : ∃ p ∈ t.tagPatterns, Like.Matches p.toList tag.toList) :
    t.raw.toList <+: tag.toList ∨ Like.IsWord t.raw.toList tag.toList := by
  rcases (exists_tagPattern_iff t tag).mp h with h | h | h
  · exact .inl h
  · rw [h]
    exact .inr (Like.isWord_after_space _)
  · rw [h]
    exact .inr (Like.isWord_between_spaces _)

/-- **What the patterns for tags find.** They find the tags that start with the term, and
the term itself after a space or between two; so they find all tags with the term as a
start or a word exactly as far as no tag has it as a word elsewhere. -/
theorem tagPatterns_find_iff (t : Term) (tag : String) :
    ((∃ p ∈ t.tagPatterns, Like.Matches p.toList tag.toList) ↔
      t.raw.toList <+: tag.toList ∨ tag.toList = ' ' :: t.raw.toList ∨
        tag.toList = ' ' :: t.raw.toList ++ [' ']) ∧
    (((∃ p ∈ t.tagPatterns, Like.Matches p.toList tag.toList) ↔
        t.raw.toList <+: tag.toList ∨ Like.IsWord t.raw.toList tag.toList) ↔
      (Like.IsWord t.raw.toList tag.toList → t.raw.toList <+: tag.toList ∨
        tag.toList = ' ' :: t.raw.toList ∨ tag.toList = ' ' :: t.raw.toList ++ [' '])) := by
  have hfound := exists_tagPattern_iff t tag
  refine ⟨hfound, ?_⟩
  constructor
  · intro h hword
    exact hfound.mp (h.mpr (.inr hword))
  · intro h
    refine ⟨start_or_word_of_tagPattern, ?_⟩
    rintro (hstart | hword)
    · exact hfound.mpr (.inl hstart)
    · exact hfound.mpr (h hword)

/-- The last word of a tag is not found. -/
theorem last_word_not_found :
    ¬∀ (t : Term) (tag : String), t.raw ≠ "" →
      ((∃ p ∈ t.tagPatterns, Like.Matches p.toList tag.toList) ↔
        t.raw.toList <+: tag.toList ∨ Like.IsWord t.raw.toList tag.toList) := by
  intro h
  have hword : Like.IsWord "b".toList "a b".toList := ⟨"a ".toList, [], rfl, .inr rfl, .inl rfl⟩
  have hfound := (h ⟨["b"], {}⟩ "a b" (by decide)).mpr (.inr hword)
  exact absurd hfound (by decide +kernel)

end Term

end TagQuery
