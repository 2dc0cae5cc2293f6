import TagQuery.Proofs.FoldedTokens

/-!
Matches inside longer texts. A pattern that matches a text should match every text that
contains it. With regard to case it does; without, the text around may change the small
letter of a capital sigma inside, and a match may be lost.

* `Text.KeepsSigmas`: the text around leaves the capital sigmas as they are settled;
* `Matcher.matchOnceFor_surrounded`: a match is kept if case counts, if the lower-cased
  pattern holds no sigma, or if the sigmas of the text are kept;
* `Matcher.matches_surrounded_iff`: whichever patterns are accepted, **all matches are kept exactly if the lower-cased text
  stands in the lower-cased longer one**;
* `Matcher.final_sigma_kept`, `Matcher.final_sigma_lost`: a match that is kept and one that
  is not.
-/

namespace TagQuery

namespace Text

/-- The capital sigmas of the text become between the other two texts what they become in
the text alone. -/
def KeepsSigmas (before text after : List Char) : Prop :=
  settleWithin before.reverse after text = settle text

instance (before text after : List Char) : Decidable (KeepsSigmas before text after) :=
  inferInstanceAs (Decidable (settleWithin before.reverse after text = settle text))

theorem lower_isInfix_of_keepsSigmas {before text after : List Char}
    (h : KeepsSigmas before text after) : lower text <:+: lower (before ++ text ++ after) := by
  have hinfix := settled_isInfix_lower before text after
  rw [h, ← lower_eq_flatMap] at hinfix
  exact hinfix

/-- Around a text only the small sigmas of its lower-cased form may change. -/
theorem exists_lower_surrounded (before text after : List Char) :
    ∃ within, within <:+: lower (before ++ text ++ after) ∧
      List.Forall₂ SameButSigma (lower text) within := by
  refine ⟨_, settled_isInfix_lower before text after, ?_⟩
  rw [lower_eq_flatMap]
  exact sameButSigma_settled [] [] before.reverse after text

end Text

open Text

namespace Token

/-- Tokens without sigmas do not tell a text from one with other small sigmas. -/
theorem divides_sameButSigma {ts : List Token} (hts : ∀ c, char c ∈ ts → ¬IsSmallSigma c)
    {part part' : List Char} (hpart : List.Forall₂ SameButSigma part part')
    (h : Divides Takes ts part) : Divides Takes ts part' := by
  have hsame : List.Forall₂ (Rewritten fun c d => d = c ∧ ¬IsSmallSigma c) ts ts := by
    rw [List.forall₂_same]
    intro t ht
    cases t with
    | char c => exact .char ⟨rfl, hts c ht⟩
    | one => exact .one
    | run => exact .run
  have hchar : ∀ c c' d : Char, c' = c ∧ ¬IsSmallSigma c → SameButSigma c d → d = c' := by
    rintro c c' d ⟨rfl, hc⟩ (rfl | ⟨hc', _⟩)
    · rfl
    · exact absurd hc' hc
  have hbreak : ∀ c d : Char, SameButSigma c d → c ∉ lineBreaks → d ∉ lineBreaks := by
    rintro c d (rfl | ⟨_, hd⟩) hc
    · exact hc
    · exact (plain_of_isSmallSigma hd).1
  exact divides_rewritten (takes_rewritten hchar hbreak) hsame hpart h

end Token

namespace Matcher

theorem mem_of_char_mem_tokens {wildcards : Bool} {c : Char} {cs : List Char}
    (h : Token.char c ∈ tokens wildcards cs) : c ∈ cs := by
  cases wildcards with
  | false => simpa using h
  | true => exact Token.mem_of_char_mem_read h

/-- A part of a text that the tokens of the pattern are divided among is found again in the
longer text, as long as no small sigma comes in its way. -/
theorem exists_part_surrounded {before text after pattern part : List Char}
    {ignoreCase wildcards : Bool}
    (hsigmas : ignoreCase = true → (∀ c ∈ lower pattern, ¬IsSmallSigma c) ∨
      KeepsSigmas before text after)
    (hpart : part <:+: foldCase ignoreCase text)
    (hdivides : Divides Token.Takes (tokens wildcards (foldCase ignoreCase pattern)) part) :
    ∃ part', part' <:+: foldCase ignoreCase (before ++ text ++ after) ∧
      Divides Token.Takes (tokens wildcards (foldCase ignoreCase pattern)) part' := by
  cases ignoreCase with
  | false => exact ⟨part, hpart.trans ⟨before, after, rfl⟩, hdivides⟩
  | true =>
    rcases hsigmas rfl with hplain | hkeeps
    · -- What stands around may have changed the sigmas, which the pattern does not see.
      obtain ⟨within, hwithin, hsame⟩ := exists_lower_surrounded before text after
      obtain ⟨part', hpart', htogether⟩ := exists_isInfix_of_forall₂ hsame hpart
      refine ⟨part', hpart'.trans hwithin, ?_⟩
      exact Token.divides_sameButSigma (fun c hc => hplain c (mem_of_char_mem_tokens hc))
        htogether hdivides
    · exact ⟨part, hpart.trans (lower_isInfix_of_keepsSigmas hkeeps), hdivides⟩

section Accepted

variable {accepts : List Char → Bool}

theorem matchOnceFor_surrounded {before text after pattern : String} {options : MatchOptions}
    (hsigmas : options.ignoreCase = true → (∀ c ∈ lower pattern.toList, ¬IsSmallSigma c) ∨
      KeepsSigmas before.toList text.toList after.toList)
    (h : matchOnceFor accepts text pattern options = .ok true) :
    matchOnceFor accepts (before ++ text ++ after) pattern options = .ok true := by
  rw [matchOnceFor_iff] at h ⊢
  obtain ⟨hcompile, part, hpart, hdivides⟩ := h
  rw [String.toList_append, String.toList_append]
  exact ⟨hcompile, exists_part_surrounded hsigmas hpart hdivides⟩

theorem matchOnceFor_literal_iff (text pattern : String) (ignoreCase : Bool) :
    matchOnceFor accepts text pattern ⟨ignoreCase, false⟩ = .ok true ↔
      foldCase ignoreCase pattern.toList <:+: foldCase ignoreCase text.toList := by
  have hcompile : ∃ m, compileFor accepts pattern ⟨ignoreCase, false⟩ = .ok m := ⟨_, rfl⟩
  simp only [matchOnceFor_iff, hcompile, true_and, tokens_false, Token.divides_char, exists_eq_right]

end Accepted

/-- **Matches inside a longer text.** Each is kept that no small sigma comes in the way of;
and all are kept exactly if the text around leaves the lower-cased form in one piece. -/
theorem matches_surrounded_iff (accepts : List Char → Bool) (before text after : String) :
    (∀ pattern options,
      (options.ignoreCase = true → (∀ c ∈ lower pattern.toList, ¬IsSmallSigma c) ∨
        KeepsSigmas before.toList text.toList after.toList) →
      matchOnceFor accepts text pattern options = .ok true →
        matchOnceFor accepts (before ++ text ++ after) pattern options = .ok true) ∧
    ((∀ pattern options, matchOnceFor accepts text pattern options = .ok true →
        matchOnceFor accepts (before ++ text ++ after) pattern options = .ok true) ↔
      lower text.toList <:+: lower (before ++ text ++ after).toList) := by
  refine ⟨fun pattern options => matchOnceFor_surrounded, ?_, ?_⟩
  · -- The text is its own pattern.
    intro hall
    have hself : matchOnceFor accepts text text ⟨true, false⟩ = .ok true :=
      (matchOnceFor_literal_iff text text true).mpr List.infix_rfl
    exact (matchOnceFor_literal_iff _ text true).mp (hall text ⟨true, false⟩ hself)
  · intro hinfix pattern options h
    rw [matchOnceFor_iff] at h ⊢
    obtain ⟨hcompile, part, hpart, hdivides⟩ := h
    refine ⟨hcompile, part, hpart.trans ?_, hdivides⟩
    obtain ⟨ignoreCase, wildcards⟩ := options
    cases ignoreCase with
    | false =>
      rw [String.toList_append, String.toList_append]
      exact ⟨before.toList, after.toList, rfl⟩
    | true => exact hinfix

/-- A space after the text keeps its last sigma final. -/
theorem final_sigma_kept :
    KeepsSigmas "".toList "ΑΣ".toList " Α".toList ∧ matchOnce "ΑΣ" "ΑΣ" {} = .ok true ∧
    matchOnce ("" ++ "ΑΣ" ++ " Α") "ΑΣ" {} = .ok true := by
  have hkeeps : KeepsSigmas "".toList "ΑΣ".toList " Α".toList := by decide +kernel
  have hmatch : matchOnce "ΑΣ" "ΑΣ" {} = .ok true := by decide +kernel
  have hsurrounded := (matches_surrounded_iff isWithinLimit "" "ΑΣ" " Α").1 "ΑΣ" {}
    (fun _ => .inr hkeeps) hmatch
  exact ⟨hkeeps, hmatch, hsurrounded⟩

/-- The letter after the text makes its last sigma one that is not final. -/
theorem final_sigma_lost :
    ¬∀ (before text after pattern : String) (options : MatchOptions),
      matchOnce text pattern options = .ok true →
        matchOnce (before ++ text ++ after) pattern options = .ok true := by
  intro h
  exact absurd (h "" "ΑΣ" "Α" "ΑΣ" {} (by decide +kernel)) (by decide +kernel)

end Matcher

end TagQuery
