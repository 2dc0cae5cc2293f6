import TagQuery.Proofs.FoldedTokens

/-!
Matching without regard to case against matching with it. A match is lower-cased with
the pattern and the text, and stays a match, but for two kinds of characters.

* The dotted capital I becomes two characters, and the wildcard for one character takes
  only one of them: `Matcher.dotted_capital_not_taken`.
* A capital sigma may become one small letter in the pattern and another one in the text.

* `Matcher.MatchesUndotted`: a match, with regard to case, that keeps the wildcard for one
  character off the dotted capital I;
* `Matcher.MatchesUndotted.settled`: such a match does not break when the capital sigmas
  are settled, if all of the pattern and of the text become the same letter;
* `Matcher.matches_ignoring_case`: **a match of that kind between the settled pattern and
  the settled text is a match without regard to case**.
-/

namespace TagQuery

open Text

namespace Matcher

/-- A part of the text is divided among the tokens of the pattern, and no dotted capital I
is taken for one character. -/
def MatchesUndotted (text pattern : String) (wildcards : Bool) : Prop :=
  ∃ part, part <:+: text.toList ∧
    Divides Token.TakesUndotted (tokens wildcards pattern.toList) part

theorem matchesUndotted_of_match {accepts : List Char → Bool} {text pattern : String}
    {wildcards : Bool} (h : matchOnceFor accepts text pattern ⟨false, wildcards⟩ = .ok true)
    (hdotted : Token.one ∈ tokens wildcards pattern.toList → 'İ' ∉ text.toList) :
    MatchesUndotted text pattern wildcards := by
  obtain ⟨_, part, hpart, hdivides⟩ := (matchOnceFor_iff text pattern _).mp h
  refine ⟨part, hpart, hdivides.imp_of_parts ?_⟩
  intro t ht sub hsub htakes
  refine ⟨htakes, ?_⟩
  rintro rfl hdot
  exact hdotted ht (hpart.subset (hsub.subset hdot))

/-! ## Both steps of lower-casing -/

theorem tokens_rewritten {R : Char → Char → Prop}
    (hsign : ∀ c d, R c d → IsSign c ∨ IsSign d → d = c) (wildcards : Bool) {cs ds : List Char}
    (h : List.Forall₂ R cs ds) :
    List.Forall₂ (Token.Rewritten R) (tokens wildcards cs) (tokens wildcards ds) := by
  cases wildcards with
  | false =>
    rw [tokens_false, tokens_false, List.forall₂_map_left_iff, List.forall₂_map_right_iff]
    exact h.imp fun _ _ hcd => .char hcd
  | true => exact Token.rewritten_read hsign h

theorem tokens_flatMap_lowerChar (wildcards : Bool) (cs : List Char) :
    tokens wildcards (cs.flatMap lowerChar) = (tokens wildcards cs).flatMap Token.lowered := by
  cases wildcards with
  | false =>
    rw [tokens_false, tokens_false, List.map_flatMap, List.flatMap_map]
    rfl
  | true => exact Token.read_flatMap_lowerChar cs

section Settled

variable {P S : Char → Prop} (hS : ∀ c, S c → IsSmallSigma c)

include hS in
theorem keeps_of_settlesAs {q : Char → Prop} (hq : ∀ d, IsSmallSigma d → q d) (c d : Char)
    (h : SettlesAs S c d) (hc : q c) : q d := by
  rcases h.eq_or with rfl | ⟨_, hd⟩
  · exact hc
  · exact hq d (hS d hd)

/-- The sigmas of the pattern and of the text become the same letter. -/
theorem eq_of_settlesAs_both (hagree : ∀ c d, P c → S d → c = d) (c c' d : Char)
    (hp : SettlesAs P c c') (hs : SettlesAs S c d) : d = c' := by
  unfold SettlesAs at hp hs
  split at hp
  next hc =>
    rw [if_pos hc] at hs
    exact (hagree c' d hp hs).symm
  next hc =>
    rw [if_neg hc] at hs
    rw [hs, hp]

include hS in
theorem takesUndotted_settled (hagree : ∀ c d, P c → S d → c = d) (t t' : Token)
    (ht : Token.Rewritten (SettlesAs P) t t') (part part' : List Char)
    (hpart : List.Forall₂ (SettlesAs S) part part') (h : t.TakesUndotted part) :
    t'.TakesUndotted part' := by
  have hbreak := keeps_of_settlesAs hS fun d hd => (Token.plain_of_isSmallSigma hd).1
  have hdotted := keeps_of_settlesAs hS fun d hd => (Token.plain_of_isSmallSigma hd).2
  have htakes := Token.takes_rewritten (eq_of_settlesAs_both hagree) hbreak t t' ht part part' hpart
  refine ⟨htakes h.1, ?_⟩
  rintro rfl hmem
  cases ht
  have hpart' := forall_mem_of_forall₂ hpart hdotted fun c hc hdot => h.2 rfl (hdot ▸ hc)
  exact hpart' 'İ' hmem rfl

end Settled

/-- The capital sigmas that become the same letter may be settled. -/
theorem MatchesUndotted.settled {text pattern : String} {wildcards : Bool}
    (h : MatchesUndotted text pattern wildcards)
    (hsigmas : SigmasAgree pattern.toList text.toList) :
    MatchesUndotted (settled text) (settled pattern) wildcards := by
  obtain ⟨part, hpart, hdivides⟩ := h
  obtain ⟨part', hpart', htogether⟩ :=
    exists_isInfix_of_forall₂ (settlesAs_settle text.toList) hpart
  have hsign : ∀ c d, SettlesAs (· ∈ sigmaForms pattern.toList) c d → IsSign c ∨ IsSign d →
      d = c := fun c d h => h.eq_of_sign fun _ => isSmallSigma_of_mem_sigmaForms
  have htokens := tokens_rewritten hsign wildcards (settlesAs_settle pattern.toList)
  have htakes := takesUndotted_settled (fun _ => isSmallSigma_of_mem_sigmaForms)
    fun c d hc hd => hsigmas c hc d hd
  refine ⟨part', ?_, ?_⟩
  · rwa [toList_settled]
  · rw [toList_settled]
    exact divides_rewritten htakes htokens htogether hdivides

/-- **A match of the settled pattern in the settled text stays a match when case is
ignored**, if it keeps the wildcard for one character off the dotted capital I. -/
theorem matchOnceFor_of_settled {accepts : List Char → Bool} {text pattern : String}
    {wildcards : Bool} (hcompile : ∃ m, compileFor accepts pattern ⟨true, wildcards⟩ = .ok m)
    (h : MatchesUndotted (settled text) (settled pattern) wildcards) :
    matchOnceFor accepts text pattern ⟨true, wildcards⟩ = .ok true := by
  obtain ⟨part, hpart, hdivides⟩ := h
  rw [toList_settled] at hpart hdivides
  -- What is settled is lower-cased character by character.
  have hlowered := Token.divides_lowered hdivides
  rw [← tokens_flatMap_lowerChar, ← lower_eq_flatMap] at hlowered
  have hinfix : part.flatMap lowerChar <:+: lower text.toList := by
    rw [lower_eq_flatMap]
    exact hpart.flatMap lowerChar
  exact (matchOnceFor_iff text pattern _).mpr ⟨hcompile, _, hinfix, hlowered⟩

/-- **Ignoring case only adds matches, but for those characters.** -/
theorem matches_ignoring_case {accepts : List Char → Bool} {text pattern : String}
    {wildcards : Bool} (hcompile : ∃ m, compileFor accepts pattern ⟨true, wildcards⟩ = .ok m) :
    (MatchesUndotted (settled text) (settled pattern) wildcards →
      matchOnceFor accepts text pattern ⟨true, wildcards⟩ = .ok true) ∧
    (SigmasAgree pattern.toList text.toList →
      (MatchesUndotted text pattern wildcards →
        matchOnceFor accepts text pattern ⟨true, wildcards⟩ = .ok true) ∧
      (matchOnceFor accepts text pattern ⟨false, wildcards⟩ = .ok true →
        (Token.one ∈ tokens wildcards pattern.toList → 'İ' ∉ text.toList) →
        matchOnceFor accepts text pattern ⟨true, wildcards⟩ = .ok true)) := by
  refine ⟨matchOnceFor_of_settled hcompile, fun hsigmas => ?_⟩
  have hundotted : MatchesUndotted text pattern wildcards →
      matchOnceFor accepts text pattern ⟨true, wildcards⟩ = .ok true :=
    fun h => matchOnceFor_of_settled hcompile (h.settled hsigmas)
  exact ⟨hundotted, fun h hdotted => hundotted (matchesUndotted_of_match h hdotted)⟩

/-- The dotted capital I is left to the wildcard for a run; of the two sigmas the second is
final, in the pattern and in the text. -/
theorem folded_match_kept :
    (∃ m, compile "$*ΣΑΣ$?" ⟨true, true⟩ = .ok m) ∧
    MatchesUndotted (settled "İ ΣΑΣ!") (settled "$*ΣΑΣ$?") true ∧
    matchOnce "İ ΣΑΣ!" "$*ΣΑΣ$?" ⟨true, true⟩ = .ok true := by
  have hcompile : ∃ m, compile "$*ΣΑΣ$?" ⟨true, true⟩ = .ok m := ⟨_, rfl⟩
  have htext : settled "İ ΣΑΣ!" = "İ σΑς!" := by decide +kernel
  have hpattern : settled "$*ΣΑΣ$?" = "$*σΑς$?" := by decide +kernel
  have hundotted : MatchesUndotted "İ σΑς!" "$*σΑς$?" true := by
    have hrun : Token.run.TakesUndotted ['İ', ' '] :=
      ⟨by simp [Token.Takes, Token.lineBreaks], by simp⟩
    have hone : Token.one.TakesUndotted ['!'] := ⟨⟨'!', rfl, by decide⟩, by simp⟩
    have hchar : ∀ c, (Token.char c).TakesUndotted [c] := fun c => ⟨rfl, by simp⟩
    exact ⟨_, List.infix_rfl, [['İ', ' '], ['σ'], ['Α'], ['ς'], ['!']], rfl,
      .cons hrun (.cons (hchar 'σ') (.cons (hchar 'Α') (.cons (hchar 'ς') (.cons hone .nil))))⟩
  rw [← htext, ← hpattern] at hundotted
  exact ⟨hcompile, hundotted, (matches_ignoring_case hcompile).1 hundotted⟩

/-- The wildcard for one character takes a dotted capital I only while case matters. -/
theorem dotted_capital_not_taken :
    ¬∀ (text pattern : String) (wildcards : Bool),
      matchOnce text pattern ⟨false, wildcards⟩ = .ok true →
        (∃ m, compile pattern ⟨true, wildcards⟩ = .ok m) →
          matchOnce text pattern ⟨true, wildcards⟩ = .ok true := by
  intro h
  have hcompile : ∃ m, compile "a$?b" ⟨true, true⟩ = .ok m := ⟨_, rfl⟩
  exact absurd (h "aİb" "a$?b" true (by decide +kernel) hcompile) (by decide +kernel)

end Matcher

end TagQuery
