import TagQuery.Proofs.Matching

/-!
Case is ignored by lower-casing and in no other way. The kind of matcher is chosen by the
pattern as it is given, and only then the pattern is lower-cased; but lower-casing neither
makes nor breaks a wildcard, so the choice is the same for the lower-cased pattern.

* `compileFor_lowercase`: a pattern is compiled to ignore case as its lower-cased form is
  compiled with regard to case, whichever patterns are accepted, errors included;
* `matches_lowercase`: **to ignore case is to lower-case the pattern and the text**.
-/

namespace TagQuery.Matcher

open Text

/-! ## Matchers that lower-case texts, and those that do not -/

/-- The matcher for texts that are lower-cased before they are given to it. -/
def withCase : Matcher → Matcher
  | literal needle _ => literal needle false
  | wildcard pattern _ => wildcard pattern false

/-- Does the matcher lower-case the texts? -/
def folds : Matcher → Bool
  | literal _ fold => fold
  | wildcard _ fold => fold

@[simp] theorem regex?_withCase (m : Matcher) : m.withCase.regex? = m.regex? := by
  cases m <;> rfl

theorem isMatchBy_withCase {m : Matcher} (h : m.folds = true)
    (search : List Char → List Char → Bool) (text : String) :
    m.withCase.isMatchBy search (lowercase text) = m.isMatchBy search text := by
  cases m with
  | literal needle fold =>
    obtain rfl : fold = true := h
    simp [withCase, isMatchBy, foldCase]
  | wildcard pattern fold =>
    obtain rfl : fold = true := h
    simp [withCase, isMatchBy, foldCase]

theorem folds_of_compile {accepts : List Char → Bool} {pattern : String} {options : MatchOptions}
    {m : Matcher} (h : compileFor accepts pattern options = .ok m) :
    m.folds = options.ignoreCase := by
  rcases compile_cases h with ⟨rfl, _⟩ | rfl
  · rfl
  · rfl

/-! ## Compiling lower-cased patterns -/

theorem hasWildcard_lowercase (pattern : String) :
    hasWildcard (lowercase pattern) = hasWildcard pattern := by
  rw [hasWildcard, hasWildcard, toList_lowercase, any_read_lower]

theorem ofLiteral_lowercase (pattern : String) :
    ofLiteral (lowercase pattern) false = (ofLiteral pattern true).withCase := by
  simp [ofLiteral, withCase, foldCase]

/-- The pattern is accepted exactly if its lower-cased form is. -/
theorem ofWildcardFor_lowercase (accepts : List Char → Bool) (pattern : String) :
    ofWildcardFor accepts (lowercase pattern) false
      = (ofWildcardFor accepts pattern true).map withCase := by
  simp only [ofWildcardFor, foldCase, toList_lowercase, if_true, Bool.false_eq_true, if_false]
  split
  · rfl
  · rfl

theorem compileFor_lowercase (accepts : List Char → Bool) (pattern : String) (wildcards : Bool) :
    compileFor accepts (lowercase pattern) ⟨false, wildcards⟩
      = (compileFor accepts pattern ⟨true, wildcards⟩).map withCase := by
  simp only [compileFor, hasWildcard_lowercase]
  by_cases h : (wildcards && hasWildcard pattern) = true
  · rw [if_pos h, if_pos h]
    exact ofWildcardFor_lowercase accepts pattern
  · rw [if_neg h, if_neg h, ofLiteral_lowercase]
    rfl

theorem matchOnceBy_lowercase (accepts : List Char → Bool)
    (search : List Char → List Char → Bool) (text pattern : String) (wildcards : Bool) :
    matchOnceBy accepts search text pattern ⟨true, wildcards⟩
      = matchOnceBy accepts search (lowercase text) (lowercase pattern) ⟨false, wildcards⟩ := by
  rw [matchOnceBy, matchOnceBy, compileFor_lowercase]
  cases h : compileFor accepts pattern ⟨true, wildcards⟩ with
  | error e => simp only [Except.map]
  | ok m => simp only [Except.map, isMatchBy_withCase (folds_of_compile h)]

/-- **To ignore case is to lower-case the pattern and the text.** The answers are the same,
errors included, whatever engine the expressions are left to; and so are the kinds of
matchers, with the expressions they stand for. -/
theorem matches_lowercase (accepts : List Char → Bool) (text pattern : String)
    (wildcards : Bool) :
    matchOnceFor accepts text pattern ⟨true, wildcards⟩
        = matchOnceFor accepts (lowercase text) (lowercase pattern) ⟨false, wildcards⟩ ∧
    (∀ search, matchOnceBy accepts search text pattern ⟨true, wildcards⟩
        = matchOnceBy accepts search (lowercase text) (lowercase pattern) ⟨false, wildcards⟩) ∧
    (compileFor accepts pattern ⟨true, wildcards⟩).map regex?
        = (compileFor accepts (lowercase pattern) ⟨false, wildcards⟩).map regex? := by
  refine ⟨?_, fun search => matchOnceBy_lowercase accepts search text pattern wildcards, ?_⟩
  · rw [← matchOnceBy_eq accepts Regex.isStandard_search]
    exact matchOnceBy_lowercase accepts Regex.search text pattern wildcards
  · rw [compileFor_lowercase]
    cases compileFor accepts pattern ⟨true, wildcards⟩ with
    | error e => simp only [Except.map]
    | ok m => simp only [Except.map, regex?_withCase]

end TagQuery.Matcher
