import TagQuery.Proofs.Matching

/-!
Texts divided among tokens, when both are rewritten.

* `divides_rewritten`: a text divided among items stays so divided if both are rewritten
  alike, character by character;
* `Token.divides_lowered`: and so it does if both are lower-cased, as long as no wildcard
  for one character stands on the one character that becomes two;
* `Matcher.matchOnceFor_iff`: a match as a part of the text divided among tokens, whether the
  wildcards are switched on or off.
-/

namespace TagQuery

section Divided

variable {α : Type} {takes : α → List Char → Prop}

theorem divides_append {xs ys : List α} {a b : List Char} (ha : Divides takes xs a)
    (hb : Divides takes ys b) : Divides takes (xs ++ ys) (a ++ b) := by
  obtain ⟨parts, rfl, hparts⟩ := ha
  obtain ⟨parts', rfl, hparts'⟩ := hb
  exact ⟨parts ++ parts', List.flatten_append, List.rel_append hparts hparts'⟩

/-- A text divided among two lists of items is divided where the second list begins. -/
theorem divides_append_iff {xs ys : List α} {text : List Char} :
    Divides takes (xs ++ ys) text ↔
      ∃ front back, text = front ++ back ∧ Divides takes xs front ∧ Divides takes ys back := by
  constructor
  · intro h
    induction xs generalizing text with
    | nil => exact ⟨[], text, rfl, (divides_nil takes []).mpr rfl, h⟩
    | cons i xs ih =>
      obtain ⟨part, rest, rfl, hpart, hrest⟩ := (divides_cons takes i (xs ++ ys) text).mp h
      obtain ⟨front, back, rfl, hfront, hback⟩ := ih hrest
      refine ⟨part ++ front, back, (List.append_assoc ..).symm, ?_, hback⟩
      exact (divides_cons takes i xs _).mpr ⟨part, front, rfl, hpart, hfront⟩
  · rintro ⟨front, back, rfl, hfront, hback⟩
    exact divides_append hfront hback

theorem divides_singleton {i : α} {text : List Char} : Divides takes [i] text ↔ takes i text := by
  rw [divides_cons]
  constructor
  · rintro ⟨part, rest, rfl, hpart, hrest⟩
    rw [(divides_nil takes rest).mp hrest, List.append_nil]
    exact hpart
  · intro h
    exact ⟨text, [], (List.append_nil text).symm, h, (divides_nil takes []).mpr rfl⟩

theorem Divides.imp_of_parts {takes' : α → List Char → Prop} {items : List α} {text : List Char}
    (h : Divides takes items text)
    (himp : ∀ i ∈ items, ∀ part, part <:+: text → takes i part → takes' i part) :
    Divides takes' items text := by
  induction items generalizing text with
  | nil =>
    rw [divides_nil] at h ⊢
    exact h
  | cons i items ih =>
    obtain ⟨part, rest, rfl, hpart, hrest⟩ := (divides_cons takes i items text).mp h
    have hfirst := himp i (List.mem_cons_self ..) part (List.prefix_append part rest).isInfix hpart
    have hothers := ih hrest fun j hj sub hsub hj' =>
      himp j (List.mem_cons_of_mem _ hj) sub (hsub.trans (List.suffix_append part rest).isInfix) hj'
    exact (divides_cons takes' i items _).mpr ⟨part, rest, rfl, hfirst, hothers⟩

/-- **A text divided among items stays so divided when both are rewritten**, if each item
takes the rewritten form of what it took. -/
theorem divides_rewritten {β : Type} {takes' : β → List Char → Prop} {Q : α → β → Prop}
    {S : Char → Char → Prop}
    (htakes : ∀ i j, Q i j → ∀ part part', List.Forall₂ S part part' → takes i part →
      takes' j part') {items : List α} {items' : List β} (hitems : List.Forall₂ Q items items')
    {text text' : List Char} (htext : List.Forall₂ S text text') (h : Divides takes items text) :
    Divides takes' items' text' := by
  induction hitems generalizing text text' with
  | nil =>
    rw [divides_nil] at h
    subst h
    cases htext
    exact (divides_nil takes' []).mpr rfl
  | cons hij _ ih =>
    obtain ⟨part, rest, rfl, hpart, hrest⟩ := (divides_cons takes _ _ _).mp h
    obtain ⟨part', rest', rfl, hpart', hrest'⟩ := Text.exists_append_of_forall₂ htext
    exact (divides_cons takes' _ _ _).mpr
      ⟨part', rest', rfl, htakes _ _ hij _ _ hpart' hpart, ih hrest' hrest⟩

end Divided

open Text

namespace Token

/-- A token takes the rewritten part if no line break comes in and its character is
rewritten as it is in the text. -/
theorem takes_rewritten {R S : Char → Char → Prop} (hchar : ∀ c c' d, R c c' → S c d → d = c')
    (hbreak : ∀ c d, S c d → c ∉ lineBreaks → d ∉ lineBreaks) (t t' : Token)
    (ht : Rewritten R t t') (part part' : List Char) (hpart : List.Forall₂ S part part')
    (h : t.Takes part) : t'.Takes part' := by
  cases ht with
  | char hR =>
    obtain rfl : part = [_] := h
    cases hpart with
    | cons hS hnil =>
      cases hnil
      rw [hchar _ _ _ hR hS]
      rfl
  | one =>
    obtain ⟨c, rfl, hc⟩ := h
    cases hpart with
    | cons hS hnil =>
      cases hnil
      exact ⟨_, rfl, hbreak _ _ hS hc⟩
  | run => exact forall_mem_of_forall₂ hpart hbreak h

/-! ## Lower-casing -/

theorem mem_lineBreaks {c : Char} :
    c ∈ lineBreaks ↔ c = '\n' ∨ c = '\r' ∨ c = '\u0085' ∨ c = '\u2028' ∨ c = '\u2029' := by
  simp [lineBreaks]

theorem isBarrier_lineBreak {c : Char} (h : c ∈ lineBreaks) : IsBarrier c := by
  rcases mem_lineBreaks.mp h with rfl | rfl | rfl | rfl | rfl <;> decide +kernel

/-- No line break comes in with small letters. -/
theorem lineBreak_notMem_lowerChar {c d : Char} (h : c ∉ lineBreaks) (hd : d ∈ lowerChar c) :
    d ∉ lineBreaks := by
  intro hbreak
  rw [eq_of_mem_lowerChar_barrier (isBarrier_lineBreak hbreak) hd] at hbreak
  exact h hbreak

/-- No capital sigma becomes a character that wildcards treat otherwise. -/
theorem plain_of_isSmallSigma {d : Char} (h : IsSmallSigma d) : d ∉ lineBreaks ∧ d ≠ 'İ' := by
  rcases h with rfl | rfl <;> decide

/-- Only the dotted capital I becomes more than one character. -/
theorem exists_lowerChar_eq_singleton {c : Char} (h : c ≠ 'İ') : ∃ d, lowerChar c = [d] := by
  rw [lowerChar, if_neg h]
  exact ⟨_, rfl⟩

/-- What a token takes, without the dotted capital I for the wildcard for one character. -/
def TakesUndotted (t : Token) (part : List Char) : Prop :=
  t.Takes part ∧ (t = one → 'İ' ∉ part)

theorem TakesUndotted.lowered {t : Token} {part : List Char} (h : t.TakesUndotted part) :
    Divides Takes t.lowered (part.flatMap lowerChar) := by
  obtain ⟨htakes, hdotted⟩ := h
  cases t with
  | char c =>
    obtain rfl : part = [c] := htakes
    rw [Token.lowered, List.flatMap_singleton]
    exact (divides_char _ _).mpr rfl
  | one =>
    obtain ⟨c, rfl, hc⟩ := htakes
    have hdot : c ≠ 'İ' := fun h => hdotted rfl (by simp [h])
    obtain ⟨d, hd⟩ := exists_lowerChar_eq_singleton hdot
    have hbreak : d ∉ lineBreaks := lineBreak_notMem_lowerChar hc (by simp [hd])
    rw [Token.lowered, List.flatMap_singleton, hd]
    exact divides_singleton.mpr ⟨d, rfl, hbreak⟩
  | run =>
    refine divides_singleton.mpr fun d hd => ?_
    obtain ⟨c, hc, hd⟩ := List.mem_flatMap.mp hd
    exact lineBreak_notMem_lowerChar (htakes c hc) hd

/-- **A text divided among tokens, and both lower-cased**, if the wildcard for one character
does not meet the one character that becomes two. -/
theorem divides_lowered {ts : List Token} {text : List Char}
    (h : Divides TakesUndotted ts text) :
    Divides Takes (ts.flatMap lowered) (text.flatMap lowerChar) := by
  induction ts generalizing text with
  | nil =>
    rw [divides_nil] at h
    subst h
    exact (divides_nil Takes []).mpr rfl
  | cons t ts ih =>
    obtain ⟨part, rest, rfl, hpart, hrest⟩ := (divides_cons TakesUndotted t ts text).mp h
    rw [List.flatMap_cons, List.flatMap_append]
    exact divides_append hpart.lowered (ih hrest)

end Token

/-! ## Matches -/

namespace Matcher

/-- The tokens of a pattern; with the wildcards switched off, its characters. -/
def tokens (wildcards : Bool) (pattern : List Char) : List Token :=
  if wildcards then Token.read pattern else pattern.map Token.char

@[simp] theorem tokens_false (cs : List Char) : tokens false cs = cs.map Token.char := rfl

@[simp] theorem tokens_true (cs : List Char) : tokens true cs = Token.read cs := rfl

section Accepted

variable {accepts : List Char → Bool}

theorem isMatch_iff_tokens {pattern : String} {options : MatchOptions} {m : Matcher}
    (h : compileFor accepts pattern options = .ok m) (text : String) :
    m.isMatch text = true ↔ ∃ part, part <:+: foldCase options.ignoreCase text.toList ∧
      Divides Token.Takes (tokens options.wildcards (foldCase options.ignoreCase pattern.toList))
        part := by
  obtain ⟨ignoreCase, wildcards⟩ := options
  have hliteral : (ofLiteral pattern ignoreCase).isMatch text = true ↔
      ∃ part, part <:+: foldCase ignoreCase text.toList ∧
        Divides Token.Takes ((foldCase ignoreCase pattern.toList).map Token.char) part := by
    rw [isMatch_ofLiteral_iff]
    simp only [Token.divides_char, exists_eq_right]
  cases wildcards with
  | false =>
    obtain rfl := Except.ok.inj h
    exact hliteral
  | true =>
    rcases compile_cases h with ⟨rfl, hw | hw⟩ | rfl
    · exact absurd hw (by simp)
    · rw [hliteral, tokens_true, read_foldCase_eq_map_char hw]
    · exact isMatch_wildcard_iff _ ignoreCase text

theorem matchOnceFor_iff (text pattern : String) (options : MatchOptions) :
    matchOnceFor accepts text pattern options = .ok true ↔
      (∃ m, compileFor accepts pattern options = .ok m) ∧
      ∃ part, part <:+: foldCase options.ignoreCase text.toList ∧
        Divides Token.Takes (tokens options.wildcards (foldCase options.ignoreCase pattern.toList))
          part := by
  unfold matchOnceFor
  cases hc : compileFor accepts pattern options with
  | error e => simp [Except.map]
  | ok m =>
    rw [← isMatch_iff_tokens hc text]
    simp [Except.map]

/-- Compiled patterns give the same answer if one matches where the other does. -/
theorem matchOnceFor_congr {text text' pattern pattern' : String} {options options' : MatchOptions}
    (hc : ∃ m, compileFor accepts pattern options = .ok m)
    (hc' : ∃ m, compileFor accepts pattern' options' = .ok m)
    (h : matchOnceFor accepts text pattern options = .ok true ↔
      matchOnceFor accepts text' pattern' options' = .ok true) :
    matchOnceFor accepts text pattern options = matchOnceFor accepts text' pattern' options' := by
  obtain ⟨m, hm⟩ := hc
  obtain ⟨m', hm'⟩ := hc'
  have hans : matchOnceFor accepts text pattern options = .ok (m.isMatch text) := by
    rw [matchOnceFor, hm]
    rfl
  have hans' : matchOnceFor accepts text' pattern' options' = .ok (m'.isMatch text') := by
    rw [matchOnceFor, hm']
    rfl
  rw [hans, hans', Except.ok.injEq, Except.ok.injEq] at h
  rw [hans, hans', Bool.eq_iff_iff.mpr h]

end Accepted

end Matcher

end TagQuery
