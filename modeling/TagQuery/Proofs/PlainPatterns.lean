import TagQuery.Proofs.Matching

/-!
Patterns that contain neither `$*` nor `$?`. They are looked for by their bytes, but
they could be looked for as expressions too.

* `any_read_iff_infix`: a pattern holds a wildcard exactly if one of the two markers
  stands in it;
* `read_foldCase_of_plain`: without a marker all tokens are characters, in the folded
  form of the pattern too;
* `isMatchBy_eq_ofLiteral`: **for a pattern without markers the search for its bytes
  and the search for its expression give the same answers.**
-/

namespace TagQuery

/-- Neither marker stands in the pattern. -/
structure IsPlain (pattern : List Char) : Prop where
  runless : ¬['$', '*'] <:+: pattern
  oneless : ¬['$', '?'] <:+: pattern

namespace Token

private theorem dollar_prefix_iff (mark : Char) (rest : List Char) :
    ['$', mark] <+: '$' :: rest ↔ rest.head? = some mark := by
  rw [List.prefix_cons_inj]
  cases rest with
  | nil => simp
  | cons c rest => simp [List.cons_prefix_cons, eq_comm]

/-- A wildcard is read exactly where a marker stands. -/
theorem any_read_iff_infix (cs : List Char) :
    (read cs).any isWildcard = true ↔ ['$', '*'] <:+: cs ∨ ['$', '?'] <:+: cs := by
  induction cs with
  | nil => simp
  | cons c cs ih =>
    rw [List.infix_cons_iff, List.infix_cons_iff]
    by_cases hc : c = '$'
    · subst hc
      rw [any_read_dollar, Bool.or_eq_true, Bool.or_eq_true, decide_eq_true_eq,
        decide_eq_true_eq, ih, dollar_prefix_iff, dollar_prefix_iff, or_or_or_comm]
    · have hprefix : ∀ mark, ¬['$', mark] <+: c :: cs := by
        intro mark h
        exact hc (List.cons_prefix_cons.mp h).1.symm
      rw [read_plain hc, List.any_cons]
      simpa [isWildcard, hprefix] using ih

theorem any_read_of_plain {cs : List Char} (h : IsPlain cs) :
    (read cs).any isWildcard = false := by
  rw [Bool.eq_false_iff, ne_eq, any_read_iff_infix, not_or]
  exact ⟨h.runless, h.oneless⟩

theorem read_foldCase_of_plain {cs : List Char} (h : IsPlain cs) (fold : Bool) :
    read (foldCase fold cs) = (foldCase fold cs).map char :=
  read_foldCase_eq_map_char (any_read_of_plain h)

end Token

namespace Matcher

theorem ofWildcardFor_eq {accepts : List Char → Bool} {pattern : String} {fold : Bool} {m : Matcher}
    (h : ofWildcardFor accepts pattern fold = .ok m) :
    m = wildcard (foldCase fold pattern.toList) fold := by
  simp only [ofWildcardFor] at h
  split at h
  · exact (Except.ok.inj h).symm
  · exact absurd h (by simp)

theorem compile_of_plain (accepts : List Char → Bool) {pattern : String}
    (h : IsPlain pattern.toList) (options : MatchOptions) :
    compileFor accepts pattern options = .ok (ofLiteral pattern options.ignoreCase) := by
  have hw : hasWildcard pattern = false := Token.any_read_of_plain h
  rw [compileFor, hw, Bool.and_false]
  rfl

theorem isMatch_wildcard_of_plain {pattern : String} (h : IsPlain pattern.toList) (fold : Bool)
    (text : String) :
    (wildcard (foldCase fold pattern.toList) fold).isMatch text = true ↔
      foldCase fold pattern.toList <:+: foldCase fold text.toList := by
  rw [isMatch_wildcard_iff, Token.read_foldCase_of_plain h]
  simp only [Token.divides_char, exists_eq_right]

/-- **A pattern without markers matches the same texts by its bytes and as an
expression**, so it does not matter that compiling takes the bytes. -/
theorem isMatchBy_eq_ofLiteral {accepts : List Char → Bool}
    {search : List Char → List Char → Bool} (hsearch : Regex.IsStandard search) {pattern : String}
    (hplain : IsPlain pattern.toList) {fold : Bool} {m : Matcher}
    (h : ofWildcardFor accepts pattern fold = .ok m) (text : String) :
    m.isMatchBy search text = (ofLiteral pattern fold).isMatch text ∧
    m.isMatch text = (ofLiteral pattern fold).isMatch text ∧
    ∀ wildcards, compileFor accepts pattern ⟨fold, wildcards⟩ = .ok (ofLiteral pattern fold) := by
  have hmatch : m.isMatch text = (ofLiteral pattern fold).isMatch text := by
    rw [ofWildcardFor_eq h, Bool.eq_iff_iff, isMatch_wildcard_of_plain hplain, isMatch_ofLiteral_iff]
  refine ⟨?_, hmatch, fun wildcards => compile_of_plain accepts hplain ⟨fold, wildcards⟩⟩
  rw [isMatchBy_eq hsearch, hmatch]

/-- Signs with a meaning in expressions, and a sigma that is final in the pattern but
not in the second text. -/
theorem plain_signs_agree :
    Regex.IsStandard Regex.search ∧ IsPlain "[$.ΑΣ".toList ∧
    ofWildcard "[$.ΑΣ" true = .ok (wildcard "[$.ας".toList true) ∧
    (wildcard "[$.ας".toList true).isMatchBy Regex.search "x[$.ΑΣ" = true ∧
    (wildcard "[$.ας".toList true).isMatchBy Regex.search "x[$.ΑΣΑ" = false ∧
    (ofLiteral "[$.ΑΣ" true).isMatch "x[$.ΑΣ" = true ∧
    (ofLiteral "[$.ΑΣ" true).isMatch "x[$.ΑΣΑ" = false := by
  have hplain : IsPlain "[$.ΑΣ".toList := ⟨by decide, by decide⟩
  have hm : ofWildcard "[$.ΑΣ" true = .ok (wildcard "[$.ας".toList true) := by decide +kernel
  have hyes := isMatchBy_eq_ofLiteral Regex.isStandard_search hplain hm "x[$.ΑΣ"
  have hno := isMatchBy_eq_ofLiteral Regex.isStandard_search hplain hm "x[$.ΑΣΑ"
  have hbytes : (ofLiteral "[$.ΑΣ" true).isMatch "x[$.ΑΣ" = true := by decide +kernel
  have hnone : (ofLiteral "[$.ΑΣ" true).isMatch "x[$.ΑΣΑ" = false := by decide +kernel
  exact ⟨Regex.isStandard_search, hplain, hm, hyes.1.trans hbytes, hno.1.trans hnone, hbytes, hnone⟩

end Matcher

end TagQuery
