import TagQuery.Pattern.Matcher
import TagQuery.Proofs.CutPatterns
import TagQuery.Proofs.Regex
import TagQuery.Proofs.Utf8

/-!
What a compiled pattern matches, whichever way it is looked for.

* `Token.occur_iff_divides`: tokens occur in a text if a part of it can be divided
  among them;
* `any_read_lower`: lower-casing neither makes nor breaks a wildcard, so a pattern
  that is looked for by its bytes holds none in the form it is looked for either;
* `isMatch_iff_divides`: **a compiled pattern matches exactly the texts that hold a
  part divided among its tokens**, and so does an engine that is given the pattern's
  expression, as it is made in two passes;
* `matchOnceBy_eq`: such an engine gives the answers that the search for tokens gives.

Which patterns are accepted is left open everywhere.
-/

namespace TagQuery

namespace Token

/-- What a token takes of a text: a character itself, one character inside a line,
or a run of them. -/
def Takes : Token → List Char → Prop
  | char c, part => part = [c]
  | one, part => ∃ c, part = [c] ∧ c ∉ lineBreaks
  | run, part => ∀ c ∈ part, c ∉ lineBreaks

theorem takes_item (t : Token) (part : List Char) : t.item.Takes part ↔ t.Takes part := by
  cases t with
  | char d =>
    constructor
    · rintro ⟨c, rfl, h⟩
      have hc : c = d := by simpa [item, Regex.Chars.takes] using h
      rw [hc]
      rfl
    · rintro rfl
      exact ⟨d, rfl, by simp [item, Regex.Chars.takes]⟩
  | one => simp [item, Regex.Item.Takes, Regex.Chars.takes, Takes]
  | run => simp [item, Regex.Item.Takes, Regex.Chars.takes, Takes]

theorem divides_item (ts : List Token) (text : List Char) :
    Divides Regex.Item.Takes (ts.map item) text ↔ Divides Takes ts text := by
  have htakes : (fun t : Token => t.item.Takes) = Takes := by
    funext t part
    exact propext (takes_item t part)
  rw [divides_map, htakes]

private theorem matchStart_eq (ts : List Token) (text : List Char) :
    matchStart ts text = Regex.matchStart (ts.map item) text := by
  fun_induction matchStart ts text with
  | case1 text => simp [Regex.matchStart]
  | case2 ts ih => simp [Regex.matchStart, item, ih]
  | case3 ts c text ih₁ ih₂ =>
    rw [List.map_cons] at ih₂ ⊢
    rw [Regex.matchStart, if_pos (by rfl), ih₁, ih₂]
    rfl
  | case4 t ts h =>
    cases t with
    | run => exact absurd rfl h
    | one => simp [Regex.matchStart, item]
    | char d => simp [Regex.matchStart, item]
  | case5 t ts c text h ih =>
    cases t with
    | run => exact absurd rfl h
    | one => simp [Regex.matchStart, item, ih, takes, Regex.Chars.takes, inLine]
    | char d => simp [Regex.matchStart, item, ih, takes, Regex.Chars.takes]

theorem occur_iff_divides (ts : List Token) (text : List Char) :
    occur ts text = true ↔ ∃ part, part <:+: text ∧ Divides Takes ts part := by
  have hstart : ∀ rest, matchStart ts rest = true ↔ Starts Takes ts rest := by
    intro rest
    rw [matchStart_eq, Regex.matchStart_iff]
    simp only [Starts, divides_item]
  rw [occur_iff, exists_isInfix_divides_iff]
  simp only [hstart]

/-! ## Patterns without wildcards -/

theorem divides_char (cs text : List Char) :
    Divides Takes (cs.map char) text ↔ text = cs := by
  induction cs generalizing text with
  | nil => exact divides_nil Takes text
  | cons c cs ih =>
    rw [List.map_cons, divides_cons]
    constructor
    · rintro ⟨part, rest, rfl, hpart, h⟩
      rw [(ih rest).mp h, show part = [c] from hpart]
      rfl
    · rintro rfl
      exact ⟨[c], cs, rfl, rfl, (ih cs).mpr rfl⟩

private theorem read_dollar {rest : List Char} (h : rest.head? ≠ some '*' ∧ rest.head? ≠ some '?') :
    read ('$' :: rest) = char '$' :: read rest :=
  read_char '$' rest fun _ => h

/-- A dollar starts a wildcard if a star or a question mark follows it. -/
theorem any_read_dollar (rest : List Char) :
    (read ('$' :: rest)).any isWildcard
      = (rest.head? = some '*' || rest.head? = some '?' || (read rest).any isWildcard) := by
  by_cases h : rest.head? = some '*' ∨ rest.head? = some '?'
  · cases rest with
    | nil => simp at h
    | cons c rest =>
      have hc : c = '*' ∨ c = '?' := by simpa using h
      rcases hc with rfl | rfl
      · simp [isWildcard]
      · simp [isWildcard]
  · rw [not_or] at h
    rw [read_dollar h]
    simp [isWildcard, h]

theorem read_eq_map_char {cs : List Char} (h : (read cs).any isWildcard = false) :
    read cs = cs.map char := by
  induction cs with
  | nil => rfl
  | cons c cs ih =>
    by_cases hc : c = '$'
    · subst hc
      rw [any_read_dollar, Bool.or_eq_false_iff, Bool.or_eq_false_iff] at h
      rw [read_dollar (by simpa using h.1), ih h.2]
      rfl
    · rw [read_plain hc, List.any_cons, Bool.or_eq_false_iff] at h
      rw [read_plain hc, ih h.2]
      rfl

end Token

section Folding

open Text

/-- Lower-casing neither makes nor breaks a wildcard. -/
theorem any_read_lower (cs : List Char) :
    (Token.read (lower cs)).any Token.isWildcard = (Token.read cs).any Token.isWildcard := by
  have hsign : ∀ c d, SettlesAs IsSmallSigma c d → IsSign c ∨ IsSign d → d = c :=
    fun c d h => h.eq_of_sign fun _ hd => hd
  have hsettled := Token.rewritten_read hsign (settlesAs_settleWithin [] [] cs)
  rw [lower_eq_flatMap, Token.read_flatMap_lowerChar, Token.any_lowered]
  exact Token.any_of_rewritten hsettled

theorem any_read_foldCase (fold : Bool) (cs : List Char) :
    (Token.read (foldCase fold cs)).any Token.isWildcard
      = (Token.read cs).any Token.isWildcard := by
  cases fold with
  | false => rfl
  | true => exact any_read_lower cs

/-- A pattern without wildcards is folded to one without wildcards. -/
theorem read_foldCase_eq_map_char {fold : Bool} {cs : List Char}
    (h : (Token.read cs).any Token.isWildcard = false) :
    Token.read (foldCase fold cs) = (foldCase fold cs).map Token.char := by
  apply Token.read_eq_map_char
  rw [any_read_foldCase]
  exact h

end Folding

/-! ## Matchers -/

namespace Matcher

/-- The answer of a matcher that leaves its expression to a search engine. -/
def isMatchBy (search : List Char → List Char → Bool) (m : Matcher) (text : String) : Bool :=
  match m with
  | literal needle fold => occursIn needle (utf8Bytes (foldCase fold text.toList))
  | wildcard pattern fold => search (cutSource pattern) (foldCase fold text.toList)

/-- A pattern is compiled to bytes if its wildcards are switched off or missing, and
otherwise to the tokens of its folded form. -/
theorem compile_cases {accepts : List Char → Bool} {pattern : String} {options : MatchOptions}
    {m : Matcher} (h : compileFor accepts pattern options = .ok m) :
    (m = ofLiteral pattern options.ignoreCase ∧
        (options.wildcards = false ∨ hasWildcard pattern = false)) ∨
      m = wildcard (foldCase options.ignoreCase pattern.toList) options.ignoreCase := by
  unfold compileFor at h
  split at h
  · simp only [ofWildcardFor] at h
    split at h
    · exact Or.inr (Except.ok.inj h).symm
    · exact absurd h (by simp)
  next hw =>
    refine Or.inl ⟨(Except.ok.inj h).symm, ?_⟩
    simpa [or_iff_not_imp_left] using hw

theorem isMatch_ofLiteral_iff (pattern : String) (fold : Bool) (text : String) :
    (ofLiteral pattern fold).isMatch text = true ↔
      foldCase fold pattern.toList <:+: foldCase fold text.toList := by
  rw [ofLiteral, isMatch, occursIn_iff, utf8Bytes_isInfix_iff]

theorem isMatch_wildcard_iff (pattern : List Char) (fold : Bool) (text : String) :
    (wildcard pattern fold).isMatch text = true ↔
      ∃ part, part <:+: foldCase fold text.toList ∧
        Divides Token.Takes (Token.read pattern) part :=
  Token.occur_iff_divides (Token.read pattern) (foldCase fold text.toList)

/-- Every engine that gives expressions their standard meaning answers what the
tokens answer. -/
theorem isMatchBy_eq {search : List Char → List Char → Bool} (hsearch : Regex.IsStandard search)
    (m : Matcher) (text : String) : m.isMatchBy search text = m.isMatch text := by
  cases m with
  | literal needle fold => rfl
  | wildcard pattern fold =>
    rw [Bool.eq_iff_iff, isMatch_wildcard_iff, isMatchBy, cutSource_eq,
      hsearch _ _ (read_regexSource pattern)]
    simp only [Token.divides_item]

/-- **A compiled pattern matches exactly the texts that hold a part divided among its
tokens**, whether it is looked for by its bytes or as an expression. -/
theorem isMatch_iff_divides {accepts : List Char → Bool} {search : List Char → List Char → Bool}
    (hsearch : Regex.IsStandard search) {pattern : String} {ignoreCase : Bool} {m : Matcher}
    (h : compileFor accepts pattern ⟨ignoreCase, true⟩ = .ok m) (text : String) :
    (m.isMatch text = true ↔
      ∃ part, part <:+: foldCase ignoreCase text.toList ∧
        Divides Token.Takes (Token.read (foldCase ignoreCase pattern.toList)) part) ∧
    m.isMatchBy search text = m.isMatch text := by
  refine ⟨?_, isMatchBy_eq hsearch m text⟩
  rcases compile_cases h with ⟨rfl, hw | hw⟩ | rfl
  · exact absurd hw (by simp)
  · have hread : Token.read (foldCase ignoreCase pattern.toList)
        = (foldCase ignoreCase pattern.toList).map Token.char := by
      apply Token.read_eq_map_char
      rw [any_read_foldCase]
      exact hw
    rw [isMatch_ofLiteral_iff, hread]
    simp [Token.divides_char]
  · exact isMatch_wildcard_iff _ ignoreCase text

/-- The second dollar starts the run, the small sigma is final in both, and the run
does not reach over the line break. -/
theorem divided_by_folded_tokens :
    Regex.IsStandard Regex.search ∧
    compile "A$$*ΑΣ$?" ⟨true, true⟩ = .ok (wildcard "a$$*ας$?".toList true) ∧
    (∃ part, part <:+: foldCase true "xA$yzΑΣ!".toList ∧
      Divides Token.Takes (Token.read (foldCase true "A$$*ΑΣ$?".toList)) part) ∧
    ¬∃ part, part <:+: foldCase true "xA$y\nzΑΣ!".toList ∧
      Divides Token.Takes (Token.read (foldCase true "A$$*ΑΣ$?".toList)) part := by
  have hc : compile "A$$*ΑΣ$?" ⟨true, true⟩ = .ok (wildcard "a$$*ας$?".toList true) := by
    decide +kernel
  have hyes := isMatch_iff_divides Regex.isStandard_search hc "xA$yzΑΣ!"
  have hno := isMatch_iff_divides Regex.isStandard_search hc "xA$y\nzΑΣ!"
  refine ⟨Regex.isStandard_search, hc, hyes.1.mp (by decide +kernel), ?_⟩
  intro hd
  exact absurd (hno.1.mpr hd) (by decide +kernel)

/-! ## Answers -/

/-- The answer of `matchOnceFor` where expressions are left to a search engine. -/
def matchOnceBy (accepts : List Char → Bool) (search : List Char → List Char → Bool)
    (text pattern : String) (options : MatchOptions) : Except PatternError Bool :=
  (compileFor accepts pattern options).map fun m => m.isMatchBy search text

theorem matchOnceBy_eq (accepts : List Char → Bool) {search : List Char → List Char → Bool}
    (hsearch : Regex.IsStandard search) : matchOnceBy accepts search = matchOnceFor accepts := by
  funext text pattern options
  simp only [matchOnceBy, matchOnceFor, isMatchBy_eq hsearch]

/-- What holds of the answers of `matchOnceFor` holds of those of every engine that gives
expressions their standard meaning. -/
theorem forall_answers {accepts : List Char → Bool} {search : List Char → List Char → Bool}
    (hsearch : Regex.IsStandard search)
    {P : (String → String → MatchOptions → Except PatternError Bool) → Prop}
    (h : P (matchOnceFor accepts)) :
    ∀ answer ∈ [matchOnceFor accepts, matchOnceBy accepts search], P answer := by
  rw [matchOnceBy_eq accepts hsearch]
  intro answer hanswer
  obtain rfl : answer = matchOnceFor accepts := by simpa using hanswer
  exact h

end Matcher

end TagQuery
