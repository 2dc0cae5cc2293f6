import TagQuery.Proofs.CacheHistory
import TagQuery.Proofs.Sigmas

/-!
A query is lower-cased as a whole before it is read.

* `Cache.lowercase_query`: **a query is read as its lower-cased form is**, and a cache that
  holds both holds the same components for them;
* `Scan.PartRead`, `partRead_foldl`: what the scan makes of a text without quotes, colons
  and separators;
* `parse_colon`: such a text before a colon, and another one after it, are one filter;
* `filter_names_agree_iff`: **its name hangs on what follows the colon exactly if the text
  before it ends in an open sigma**, since colons are passed over in the search for a cased
  character.
-/

namespace TagQuery

open Text

theorem lowercase_lowercase (s : String) : lowercase (lowercase s) = lowercase s := by
  rw [← String.toList_inj, toList_lowercase, toList_lowercase, lower_lower]

/-- Queries with the same lower-cased form are read alike. -/
theorem parse_congr {query query' : String} (h : lowercase query = lowercase query') :
    parse query = parse query' := by
  rw [parse, parse, ← toList_lowercase, ← toList_lowercase, h]

theorem parse_lowercase (query : String) : parse (lowercase query) = parse query :=
  parse_congr (lowercase_lowercase query)

/-- **A query is read as its lower-cased form is.** Whatever a cache was asked before, its
entries for the two are the same where it has both. -/
theorem Cache.lowercase_query {ι : Type} [DecidableEq ι] (query : String)
    (calls : List (ι × Call)) (i : ι) :
    TagQuery.parse (lowercase query) = TagQuery.parse query ∧
    (after calls i).find? query
      = (if query ∈ sinceClear (callsOn i calls) then some (TagQuery.parse query) else none) ∧
    (after calls i).find? (lowercase query)
      = (if lowercase query ∈ sinceClear (callsOn i calls) then some (TagQuery.parse query)
        else none) := by
  have hafter := remembers_after calls i
  refine ⟨parse_lowercase query, hafter.find? query, ?_⟩
  rw [hafter.find?, parse_lowercase]

/-! ## Texts in one part -/

/-- The signs that switch quoting, end a name or end a component. -/
def partSigns : List Char := ['"', ':', ' ', ',']

/-- No quote, no colon and no separator stands in the text. -/
def IsPart (cs : List Char) : Prop := ∀ c ∈ cs, c ∉ partSigns

instance : DecidablePred IsPart := fun cs => List.decidableBAll (· ∉ partSigns) cs

theorem isSign_of_mem_partSigns {c : Char} (h : c ∈ partSigns) : IsSign c := by
  have hc : c = '"' ∨ c = ':' ∨ c = ' ' ∨ c = ',' := by simpa [partSigns] using h
  rcases hc with rfl | rfl | rfl | rfl <;> decide

/-- Lower-casing brings no sign in, wherever the text stands. -/
theorem mem_of_sign_mem_settled {x : Char} (hx : IsSign x) {before after cs : List Char}
    (h : x ∈ (settleWithin before after cs).flatMap lowerChar) : x ∈ cs := by
  obtain ⟨d, hd, hlower⟩ := List.mem_flatMap.mp h
  obtain rfl := eq_of_mem_lowerChar_sign hx hlower
  have hkept : ∀ c d, SettlesAs IsSmallSigma c d → c ∈ cs → IsSign d → d ∈ cs := by
    intro c d hcd hc hsign
    rw [hcd.eq_of_sign (fun _ hform => hform) (.inr hsign)]
    exact hc
  have hall := forall_mem_of_forall₂ (settlesAs_settleWithin before after cs) hkept fun _ hc => hc
  exact hall x hd hx

theorem IsPart.settled {cs : List Char} (h : IsPart cs) (before after : List Char) :
    IsPart ((settleWithin before after cs).flatMap lowerChar) := by
  intro c hc hsign
  exact h c (mem_of_sign_mem_settled (isSign_of_mem_partSigns hsign) hc) hsign

namespace Scan

/-- What becomes of a scan that goes over the part `cs` outside quotes. All characters of it
but dashes and dollars go into the word. -/
structure PartRead (s : Scan) (cs : List Char) (s' : Scan) : Prop where
  quoted : s'.quoted = false
  name? : s'.name? = s.name?
  found : s'.found = s.found
  count : ∀ x, x ≠ '-' → x ≠ '$' → s'.word.count x = s.word.count x + cs.count x

/-- **Step lemma.** -/
theorem partRead_step {s : Scan} (hq : s.quoted = false) {c : Char} (hc : IsPart [c]) :
    PartRead s [c] (s.step c) := by
  have hplain : c ∉ partSigns := hc c (List.mem_cons_self ..)
  have hm := s.move_step c
  generalize s.step c = s' at hm
  cases hm with
  | quote => exact absurd (by decide) hplain
  | colon => exact absurd (by decide) hplain
  | exclude => exact ⟨hq, rfl, rfl, fun x hx _ => by simp [Ne.symm hx]⟩
  | exact => exact ⟨hq, rfl, rfl, fun x _ hx => by simp [Ne.symm hx]⟩
  | cut _ hcut => rcases hcut with rfl | rfl <;> exact absurd (by decide) hplain
  | keep =>
    refine ⟨hq, rfl, rfl, fun x _ _ => ?_⟩
    rw [append, ← List.singleton_append, List.count_append, Nat.add_comm]

/-- **Run lemma.** -/
theorem partRead_foldl {s : Scan} (hq : s.quoted = false) {cs : List Char} (h : IsPart cs) :
    PartRead s cs (cs.foldl step s) := by
  induction cs generalizing s with
  | nil => exact ⟨hq, rfl, rfl, fun x _ _ => rfl⟩
  | cons c cs ih =>
    have hc : IsPart [c] := fun x hx => h x (List.mem_append_left cs hx)
    have hfirst := partRead_step hq hc
    have hrest := ih hfirst.quoted fun x hx => h x (List.mem_cons_of_mem c hx)
    refine ⟨hrest.quoted, hrest.name?.trans hfirst.name?, hrest.found.trans hfirst.found, ?_⟩
    intro x hdash hdollar
    rw [List.foldl_cons, hrest.count x hdash hdollar, hfirst.count x hdash hdollar, Nat.add_assoc,
      ← List.count_append]
    rfl

end Scan

/-! ## Names -/

/-- The word that is left of a part that is read before `after`. -/
def wordBefore (part after : List Char) : List Char :=
  (((settleWithin [] after part).flatMap lowerChar).foldl Scan.step {}).word.reverse

theorem count_wordBefore {part : List Char} (h : IsPart part) (after : List Char) {x : Char}
    (hdash : x ≠ '-') (hdollar : x ≠ '$') :
    (wordBefore part after).count x = ((settleWithin [] after part).flatMap lowerChar).count x := by
  rw [wordBefore, List.count_reverse,
    (Scan.partRead_foldl (s := {}) rfl (h.settled [] after)).count x hdash hdollar]
  exact Nat.zero_add _

/-- A colon is passed over, so the text before it is settled as if what follows the colon
came next. -/
theorem lower_colon (xs ys : List Char) : lower (xs ++ ':' :: ys)
    = (settleWithin [] ys xs).flatMap lowerChar
      ++ ':' :: (settleWithin (':' :: xs.reverse) [] ys).flatMap lowerChar := by
  have hcolon : meetsCased (':' :: ys) = meetsCased ys := by
    rw [meetsCased, if_pos (by decide +kernel)]
  have hsign : lowerChar ':' = [':'] := lowerChar_sign (by decide)
  rw [lower_eq_flatMap, settle, settleWithin_append, List.append_nil, List.append_nil,
    settleWithin_congr hcolon, settleWithin, if_neg (by decide), List.flatMap_append,
    List.flatMap_cons, hsign]
  rfl

/-- **A part before a colon and a part after it are one filter.** -/
theorem parse_colon {name value : String} (hname : IsPart name.toList)
    (hvalue : IsPart value.toList) :
    ∃ f : TagFilter, parse (name ++ ":" ++ value) = [.filter f] ∧
      f.name = canonicalName (String.ofList (wordBefore name.toList value.toList)) := by
  have hfirst := Scan.partRead_foldl (s := {}) rfl (hname.settled [] value.toList)
  have hchars : (name ++ ":" ++ value).toList = name.toList ++ ':' :: value.toList := by simp
  rw [parse, hchars, lower_colon, List.foldl_append, List.foldl_cons]
  generalize hs : ((settleWithin [] value.toList name.toList).flatMap lowerChar).foldl
    Scan.step {} = s at hfirst
  have hopened : s.openFilter.quoted = false := hfirst.quoted
  have hsecond := Scan.partRead_foldl hopened (hvalue.settled (':' :: name.toList.reverse) [])
  have hcolon : s.step ':' = s.openFilter := by simp [Scan.step]
  rw [hcolon, Scan.components, Scan.flush_filter hsecond.name?, List.reverse_cons,
    hsecond.found, show s.openFilter.found = [] from hfirst.found]
  refine ⟨_, rfl, ?_⟩
  rw [wordBefore, hs]

/-- No shorthand holds a small sigma. -/
theorem canonicalName_of_sigma {name : String} {c : Char} (hc : IsSmallSigma c)
    (h : c ∈ name.toList) : canonicalName name = name := by
  unfold canonicalName
  split <;> rcases hc with rfl | rfl <;> simp_all

/-- What comes after a part that ends open brings one small sigma into its word. -/
theorem count_wordBefore_of_endsOpen {part : List Char} (h : IsPart part) (hopen : EndsOpen part) :
    ∃ rest : List Char, ∀ after x, IsSmallSigma x →
      (wordBefore part after).count x = rest.count x + [sigmaBefore after].count x := by
  obtain ⟨front, back, hsettle⟩ := settleWithin_of_endsOpen hopen
  refine ⟨front.flatMap lowerChar ++ back.flatMap lowerChar, fun after x hx => ?_⟩
  have hplain : x ≠ '-' ∧ x ≠ '$' := by rcases hx with rfl | rfl <;> decide
  have hsigma := lowerChar_smallSigma (isSmallSigma_sigmaBefore after)
  rw [count_wordBefore h after hplain.1 hplain.2, hsettle, List.flatMap_append, List.flatMap_cons,
    hsigma, List.count_append, List.count_append, List.count_append]
  omega

theorem sigma_mem_wordBefore {part : List Char} (h : IsPart part) (hopen : EndsOpen part)
    (after : List Char) : sigmaBefore after ∈ wordBefore part after := by
  obtain ⟨rest, hcount⟩ := count_wordBefore_of_endsOpen h hopen
  rw [← List.count_pos_iff, hcount after _ (isSmallSigma_sigmaBefore after),
    List.count_singleton_self]
  exact Nat.succ_pos _

theorem wordBefore_eq_iff {part : List Char} (h : IsPart part) (after after' : List Char) :
    wordBefore part after = wordBefore part after' ↔
      (EndsOpen part → meetsCased after = meetsCased after') := by
  constructor
  · intro heq hopen
    obtain ⟨rest, hcount⟩ := count_wordBefore_of_endsOpen h hopen
    have hsigma := isSmallSigma_sigmaBefore after
    have hboth := hcount after _ hsigma
    rw [heq, hcount after' _ hsigma, List.count_singleton_self, Nat.add_left_cancel_iff] at hboth
    rw [← sigmaBefore_eq_iff]
    have hmem : sigmaBefore after ∈ [sigmaBefore after'] := by
      rw [← List.count_pos_iff, hboth]
      exact Nat.one_pos
    exact List.mem_singleton.mp hmem
  · intro hagree
    by_cases hopen : EndsOpen part
    · rw [wordBefore, wordBefore, settleWithin_congr (hagree hopen)]
    · rw [wordBefore, wordBefore, settleWithin_of_not_endsOpen hopen after after']

/-- No two words of a part become one name. -/
theorem canonicalName_wordBefore_eq_iff {part : List Char} (h : IsPart part)
    (after after' : List Char) :
    canonicalName (String.ofList (wordBefore part after))
        = canonicalName (String.ofList (wordBefore part after')) ↔
      wordBefore part after = wordBefore part after' := by
  by_cases hopen : EndsOpen part
  · have hown : ∀ after, canonicalName (String.ofList (wordBefore part after))
        = String.ofList (wordBefore part after) := by
      intro after
      apply canonicalName_of_sigma (isSmallSigma_sigmaBefore after)
      rw [String.toList_ofList]
      exact sigma_mem_wordBefore h hopen after
    rw [hown, hown, String.ofList_inj]
  · have hsame := (wordBefore_eq_iff h after after').mpr fun h => absurd h hopen
    simp [hsame]

/-- **The name of a filter hangs on what follows the colon** exactly if the text before it
ends in an open sigma: then it counts whether a cased character comes first after the colon,
but for those that are passed over. -/
theorem filter_names_agree_iff {name value value' : String} (hname : IsPart name.toList)
    (hvalue : IsPart value.toList) (hvalue' : IsPart value'.toList) :
    ∃ f g : TagFilter, parse (name ++ ":" ++ value) = [.filter f] ∧
      parse (name ++ ":" ++ value') = [.filter g] ∧
      (f.name = g.name ↔
        (EndsOpen name.toList → meetsCased value.toList = meetsCased value'.toList)) := by
  obtain ⟨f, hf, hfname⟩ := parse_colon hname hvalue
  obtain ⟨g, hg, hgname⟩ := parse_colon hname hvalue'
  refine ⟨f, g, hf, hg, ?_⟩
  rw [hfname, hgname, canonicalName_wordBefore_eq_iff hname, wordBefore_eq_iff hname]

/-- A full stop does not hide the letter after the colon from the sigma before it, and so
the two names differ; a digit does. -/
theorem letter_after_colon_seen :
    IsPart "ΑΣ.".toList ∧ IsPart "'b".toList ∧ IsPart "1b".toList ∧
    ∃ f g : TagFilter, parse ("ΑΣ." ++ ":" ++ "'b") = [.filter f] ∧
      parse ("ΑΣ." ++ ":" ++ "1b") = [.filter g] ∧ f.name ≠ g.name := by
  have hname : IsPart "ΑΣ.".toList := by decide
  have hvalue : IsPart "'b".toList := by decide
  have hvalue' : IsPart "1b".toList := by decide
  obtain ⟨f, g, hf, hg, hiff⟩ := filter_names_agree_iff hname hvalue hvalue'
  refine ⟨hname, hvalue, hvalue', f, g, hf, hg, fun hnames => ?_⟩
  have hopen : EndsOpen "ΑΣ.".toList :=
    ⟨['Α'], ['.'], by decide, by decide +kernel, List.forall_mem_singleton.mpr (by decide +kernel)⟩
  exact absurd (hiff.mp hnames hopen) (by decide +kernel)

theorem filter_name_not_settled_before_colon :
    ¬∀ name value value' : String, IsPart name.toList → IsPart value.toList →
      IsPart value'.toList → ∃ f g : TagFilter, parse (name ++ ":" ++ value) = [.filter f] ∧
        parse (name ++ ":" ++ value') = [.filter g] ∧ f.name = g.name := by
  intro h
  obtain ⟨f, g, hf, hg, hnames⟩ := h "ΑΣ" "1" "b" (by decide) (by decide) (by decide)
  have hone : parse ("ΑΣ" ++ ":" ++ "1") = [.filter ⟨"ας", ⟨["1"], {}⟩, {}⟩] := by decide +kernel
  have hletter : parse ("ΑΣ" ++ ":" ++ "b") = [.filter ⟨"ασ", ⟨["b"], {}⟩, {}⟩] := by
    decide +kernel
  rw [hone] at hf
  rw [hletter] at hg
  simp only [List.cons.injEq, Component.filter.injEq, and_true] at hf hg
  rw [← hf, ← hg] at hnames
  exact absurd hnames (by decide)

end TagQuery
