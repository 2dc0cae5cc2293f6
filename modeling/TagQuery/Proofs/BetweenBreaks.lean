import TagQuery.Proofs.ContainedMatches

/-!
Matches do not reach over line breaks. The wildcards take no line break, and the
characters of a pattern take themselves only; so a pattern without line breaks is divided
over a text without line breaks.

* `Token.lines`: the texts between the line breaks of a text;
* `Token.lines_lower`: a text is lower-cased line by line, since no line break is cased and
  none is passed over in the search for a cased character;
* `Token.isInfix_iff_exists_line`: a part without line breaks lies in one of the lines;
* `Matcher.matches_iff_exists_line`: **a pattern without line breaks matches a text
  exactly if it matches one of its lines**.
-/

namespace TagQuery

open Text

namespace Token

/-- No line break stands in the text. -/
def IsUnbroken (cs : List Char) : Prop := ∀ c ∈ cs, c ∉ lineBreaks

instance : DecidablePred IsUnbroken := fun cs => List.decidableBAll (· ∉ lineBreaks) cs

/-- The texts between the line breaks. There is always one. -/
def lines (cs : List Char) : List (List Char) := cs.splitOnP lineBreaks.contains

theorem lines_of_isUnbroken {cs : List Char} (h : IsUnbroken cs) : lines cs = [cs] := by
  apply List.splitOnP_eq_singleton
  intro c hc
  simpa using h c hc

theorem lines_append_break {b : Char} (hb : b ∈ lineBreaks) (xs ys : List Char) :
    lines (xs ++ b :: ys) = lines xs ++ lines ys :=
  List.splitOnP_append_cons xs ys (by simpa using hb)

/-- Induction on a text by its line breaks, in whatever order they are found. -/
theorem lines_induction {motive : List Char → Prop}
    (unbroken : ∀ cs, IsUnbroken cs → motive cs)
    (broken : ∀ xs b ys, b ∈ lineBreaks → motive xs → motive ys → motive (xs ++ b :: ys))
    (cs : List Char) : motive cs := by
  by_cases h : IsUnbroken cs
  · exact unbroken cs h
  · have hbreak : ∃ b ∈ cs, b ∈ lineBreaks := by simpa [IsUnbroken] using h
    obtain ⟨b, hmem, hb⟩ := hbreak
    obtain ⟨xs, ys, hcs⟩ := List.append_of_mem hmem
    have hxs : xs.length < cs.length := by
      rw [hcs, List.length_append, List.length_cons]
      omega
    have hys : ys.length < cs.length := by
      rw [hcs, List.length_append, List.length_cons]
      omega
    rw [hcs]
    exact broken xs b ys hb (lines_induction unbroken broken xs)
      (lines_induction unbroken broken ys)
termination_by cs.length

/-! ## Lower-casing line by line -/

theorem isLower_lineBreak {c : Char} (h : c ∈ lineBreaks) : IsLower c := by
  rcases mem_lineBreaks.mp h with rfl | rfl | rfl | rfl | rfl <;> decide +kernel

theorem IsUnbroken.lower {cs : List Char} (h : IsUnbroken cs) : IsUnbroken (lower cs) := by
  have hsettle : IsUnbroken (settle cs) := by
    refine forall_mem_of_forall₂ (settlesAs_settleWithin [] [] cs) ?_ h
    intro c d hcd hc
    rcases hcd.eq_or with rfl | ⟨_, hd⟩
    · exact hc
    · exact (plain_of_isSmallSigma hd).1
  intro d hd
  rw [lower_eq_flatMap] at hd
  obtain ⟨c, hc, hd⟩ := List.mem_flatMap.mp hd
  exact lineBreak_notMem_lowerChar (hsettle c hc) hd

theorem lines_lower (cs : List Char) : lines (Text.lower cs) = (lines cs).map Text.lower := by
  induction cs using lines_induction with
  | unbroken cs h =>
    rw [lines_of_isUnbroken h, lines_of_isUnbroken h.lower]
    rfl
  | broken xs b ys hb ihx ihy =>
    have hlower := lower_append_barrier (isBarrier_lineBreak hb) (isLower_lineBreak hb) xs ys
    rw [hlower, lines_append_break hb, lines_append_break hb, ihx, ihy, List.map_append]

theorem lines_foldCase (fold : Bool) (cs : List Char) :
    lines (foldCase fold cs) = (lines cs).map (foldCase fold) := by
  cases fold with
  | false => exact (List.map_id' (lines cs)).symm
  | true => exact lines_lower cs

theorem IsUnbroken.foldCase {cs : List Char} (h : IsUnbroken cs) (fold : Bool) :
    IsUnbroken (foldCase fold cs) := by
  cases fold with
  | false => exact h
  | true => exact h.lower

/-! ## Parts without line breaks -/

theorem isInfix_append_break_iff {part : List Char} (h : IsUnbroken part) {b : Char}
    (hb : b ∈ lineBreaks) (xs ys : List Char) :
    part <:+: xs ++ b :: ys ↔ part <:+: xs ∨ part <:+: ys := by
  constructor
  · intro hpart
    rcases List.infix_append_iff.mp hpart with hx | hy | ⟨front, back, rfl, hfront, hback⟩
    · exact .inl hx
    · rcases List.infix_cons_iff.mp hy with hprefix | hy
      · cases part with
        | nil => exact .inl List.nil_infix
        | cons c part =>
          obtain ⟨rfl, _⟩ := List.cons_prefix_cons.mp hprefix
          exact absurd hb (h c (List.mem_cons_self ..))
      · exact .inr hy
    · -- The part that reaches up to the break ends before it.
      cases back with
      | nil => exact .inl (by simpa using hfront.isInfix)
      | cons c back =>
        obtain ⟨rfl, _⟩ := List.cons_prefix_cons.mp hback
        exact absurd hb (h c (by simp))
  · rintro (hx | hy)
    · exact hx.trans (List.prefix_append xs _).isInfix
    · exact hy.trans ((List.suffix_cons b ys).trans (List.suffix_append xs _)).isInfix

theorem isInfix_iff_exists_line {part : List Char} (h : IsUnbroken part) (cs : List Char) :
    part <:+: cs ↔ ∃ line ∈ lines cs, part <:+: line := by
  induction cs using lines_induction with
  | unbroken cs hcs => simp [lines_of_isUnbroken hcs]
  | broken xs b ys hb ihx ihy =>
    rw [isInfix_append_break_iff h hb, ihx, ihy, lines_append_break hb]
    simp only [List.mem_append, or_and_right, exists_or]

/-! ## Matches -/

/-- What tokens without line breaks are divided over holds no line break. -/
theorem isUnbroken_of_divides {ts : List Token} (hts : ∀ c, char c ∈ ts → c ∉ lineBreaks)
    {part : List Char} (h : Divides Takes ts part) : IsUnbroken part := by
  induction ts generalizing part with
  | nil =>
    obtain rfl := (divides_nil Takes part).mp h
    simp [IsUnbroken]
  | cons t ts ih =>
    obtain ⟨first, rest, rfl, hfirst, hrest⟩ := (divides_cons Takes t ts part).mp h
    have hbreakless : IsUnbroken first := by
      cases t with
      | char c =>
        obtain rfl : first = [c] := hfirst
        simpa [IsUnbroken] using hts c (List.mem_cons_self ..)
      | one =>
        obtain ⟨c, rfl, hc⟩ := hfirst
        simpa [IsUnbroken] using hc
      | run => exact hfirst
    have hothers := ih (fun c hc => hts c (List.mem_cons_of_mem _ hc)) hrest
    intro c hc
    rcases List.mem_append.mp hc with hc | hc
    · exact hbreakless c hc
    · exact hothers c hc

theorem exists_part_iff_exists_line {ts : List Token}
    (hts : ∀ c, char c ∈ ts → c ∉ lineBreaks) (fold : Bool) (cs : List Char) :
    (∃ part, part <:+: foldCase fold cs ∧ Divides Takes ts part) ↔
      ∃ line ∈ lines cs, ∃ part, part <:+: foldCase fold line ∧ Divides Takes ts part := by
  constructor
  · rintro ⟨part, hpart, hdivides⟩
    rw [isInfix_iff_exists_line (isUnbroken_of_divides hts hdivides), lines_foldCase] at hpart
    obtain ⟨_, hfolded, hpart⟩ := hpart
    obtain ⟨line, hline, rfl⟩ := List.mem_map.mp hfolded
    exact ⟨line, hline, part, hpart, hdivides⟩
  · rintro ⟨line, hline, part, hpart, hdivides⟩
    refine ⟨part, ?_, hdivides⟩
    rw [isInfix_iff_exists_line (isUnbroken_of_divides hts hdivides), lines_foldCase]
    exact ⟨_, List.mem_map_of_mem hline, hpart⟩

end Token

/-- The lines of a text, without their line breaks. -/
def linesOf (text : String) : List String := (Token.lines text.toList).map String.ofList

namespace Matcher

/-- **A pattern without line breaks matches a text exactly if it matches one of its lines**,
in the search for tokens and by an engine that is given the pattern's expression. -/
theorem matches_iff_exists_line (accepts : List Char → Bool)
    {search : List Char → List Char → Bool} (hsearch : Regex.IsStandard search) {pattern : String}
    (h : Token.IsUnbroken pattern.toList) (options : MatchOptions) (text : String) :
    ∀ answer ∈ [matchOnceFor accepts, matchOnceBy accepts search],
      (answer text pattern options = .ok true ↔
        ∃ line ∈ linesOf text, answer line pattern options = .ok true) := by
  refine forall_answers hsearch ?_
  have hts : ∀ c, Token.char c ∈ tokens options.wildcards
      (foldCase options.ignoreCase pattern.toList) → c ∉ Token.lineBreaks :=
    fun c hc => h.foldCase options.ignoreCase c (mem_of_char_mem_tokens hc)
  rw [matchOnceFor_iff, Token.exists_part_iff_exists_line hts]
  constructor
  · rintro ⟨hcompile, line, hline, hpart⟩
    refine ⟨String.ofList line, List.mem_map_of_mem hline, ?_⟩
    rw [matchOnceFor_iff, String.toList_ofList]
    exact ⟨hcompile, hpart⟩
  · rintro ⟨_, hmem, hmatch⟩
    obtain ⟨line, hline, rfl⟩ := List.mem_map.mp hmem
    rw [matchOnceFor_iff, String.toList_ofList] at hmatch
    exact ⟨hmatch.1, line, hline, hmatch.2⟩

/-- The sigma before the line feed is final in the text as in its line, but the wildcard
after it has nothing to take there. -/
theorem one_after_break_not_taken :
    Regex.IsStandard Regex.search ∧ Token.IsUnbroken "ΑΣ$?".toList ∧
    linesOf "ΑΣ\nxΑΣ!\u2028Α" = ["ΑΣ", "xΑΣ!", "Α"] ∧
    (∃ line ∈ linesOf "ΑΣ\nxΑΣ!\u2028Α",
      matchOnceBy isWithinLimit Regex.search line "ΑΣ$?" {} = .ok true) ∧
    ¬∃ line ∈ linesOf "ΑΣ\nxΑΣ\u2028Α", matchOnce line "ΑΣ$?" {} = .ok true := by
  have hpattern : Token.IsUnbroken "ΑΣ$?".toList := by decide
  have hyes := matches_iff_exists_line isWithinLimit Regex.isStandard_search hpattern {}
    "ΑΣ\nxΑΣ!\u2028Α" (matchOnceBy isWithinLimit Regex.search) (by simp)
  have hno := matches_iff_exists_line isWithinLimit Regex.isStandard_search hpattern {}
    "ΑΣ\nxΑΣ\u2028Α" (matchOnceFor isWithinLimit) (by simp)
  have hmatch : matchOnceBy isWithinLimit Regex.search "ΑΣ\nxΑΣ!\u2028Α" "ΑΣ$?" {} = .ok true := by
    rw [matchOnceBy_eq isWithinLimit Regex.isStandard_search]
    decide +kernel
  refine ⟨Regex.isStandard_search, hpattern, by decide, hyes.mp hmatch, fun h => ?_⟩
  exact absurd (hno.mpr h) (by decide +kernel)

end Matcher

end TagQuery
