import TagQuery.Proofs.FoldedTokens
import TagQuery.Proofs.PlainPatterns

/-!
Adjacent markers in a pattern. A marker starts with a dollar, and no other character is
read together with a dollar that follows it; so markers are read by themselves wherever
they are put into a pattern, and lower-casing does not reach over them.

* `Token.read_foldCase_written`: the tokens of a pattern with markers in it;
* `Marker.divides_tokens`: a text is divided among adjacent markers if it is long enough,
  and no longer than the markers for one character unless there is one for a run;
* `Matcher.matches_markers`: **of adjacent markers only the number of those for one
  character matters, and whether there is one for a run**;
* `Matcher.matches_runs_around`: **markers for a run before and after a pattern do not
  matter at all**, since matches are never tied to the start or the end of a text.
-/

namespace TagQuery

open Text

/-- The markers of patterns. -/
inductive Marker where
  | one
  | run
  deriving DecidableEq, Repr

namespace Marker

/-- What stands after the dollar. -/
def mark : Marker → Char
  | one => '?'
  | run => '*'

def token : Marker → Token
  | one => .one
  | run => .run

/-- Markers written one after the other. -/
def written (ms : List Marker) : List Char := ms.flatMap fun m => ['$', m.mark]

@[simp] theorem written_nil : written [] = [] := rfl

@[simp] theorem written_cons (m : Marker) (ms : List Marker) :
    written (m :: ms) = '$' :: m.mark :: written ms := rfl

def pattern (ms : List Marker) : String := String.ofList (written ms)

@[simp] theorem toList_pattern (ms : List Marker) : (pattern ms).toList = written ms :=
  String.toList_ofList

end Marker

/-! ## Reading -/

namespace Token

theorem read_written_append (ms : List Marker) (cs : List Char) :
    read (Marker.written ms ++ cs) = ms.map Marker.token ++ read cs := by
  induction ms with
  | nil => rfl
  | cons m ms ih => cases m <;> simp [Marker.mark, Marker.token, ih]

/-- A dollar is not read together with what stands before it, be it another dollar. -/
theorem read_append_dollar (xs ys : List Char) :
    read (xs ++ '$' :: ys) = read xs ++ read ('$' :: ys) := by
  induction xs using read_induction with
  | nil => rfl
  | run rest ih => simp [ih]
  | one rest ih => simp [ih]
  | char c rest hchar ih =>
    have hlater : c = '$' →
        (rest ++ '$' :: ys).head? ≠ some '*' ∧ (rest ++ '$' :: ys).head? ≠ some '?' := by
      intro hc
      cases rest with
      | nil => simp
      | cons d rest => exact hchar hc
    rw [List.cons_append, read_char c _ hlater, read_char c rest hchar, ih]
    rfl

theorem read_append_written {ms : List Marker} (h : ms ≠ []) (xs ys : List Char) :
    read (xs ++ Marker.written ms ++ ys) = read xs ++ ms.map Marker.token ++ read ys := by
  obtain ⟨m, ms, rfl⟩ := List.exists_cons_of_ne_nil h
  have hfirst := read_append_dollar xs (m.mark :: Marker.written ms ++ ys)
  have hmarkers := read_written_append (m :: ms) ys
  rw [Marker.written_cons, List.cons_append] at hmarkers
  rw [Marker.written_cons, List.append_assoc, List.append_assoc, List.cons_append, hfirst,
    hmarkers]

end Token

/-! ## Lower-casing -/

namespace Marker

theorem isBarrier_dollar : IsBarrier '$' := by decide +kernel

theorem isBarrier_mark (m : Marker) : IsBarrier m.mark := by
  cases m <;> decide +kernel

theorem isSign_mark (m : Marker) : IsSign m.mark := by
  cases m <;> decide

theorem lower_append_marker (m : Marker) (xs ys : List Char) :
    lower (xs ++ '$' :: m.mark :: ys) = lower xs ++ '$' :: m.mark :: lower ys := by
  have hsign : IsLower '$' := lowerChar_sign (by decide)
  have hdollar := lower_append_barrier isBarrier_dollar hsign xs (m.mark :: ys)
  have hmark := lower_append_barrier (isBarrier_mark m) (lowerChar_sign (isSign_mark m)) [] ys
  rw [hdollar, ← List.nil_append (m.mark :: ys), hmark]
  rfl

theorem lower_written_append (ms : List Marker) (cs : List Char) :
    lower (written ms ++ cs) = written ms ++ lower cs := by
  induction ms with
  | nil => rfl
  | cons m ms ih =>
    have hmarker := lower_append_marker m [] (written ms ++ cs)
    rw [ih] at hmarker
    exact hmarker

theorem lower_append_written {ms : List Marker} (h : ms ≠ []) (xs ys : List Char) :
    lower (xs ++ written ms ++ ys) = lower xs ++ written ms ++ lower ys := by
  obtain ⟨m, ms, rfl⟩ := List.exists_cons_of_ne_nil h
  have hmarker := lower_append_marker m xs (written ms ++ ys)
  rw [lower_written_append] at hmarker
  simpa using hmarker

theorem foldCase_append_written (fold : Bool) {ms : List Marker} (h : ms ≠ [])
    (xs ys : List Char) : foldCase fold (xs ++ written ms ++ ys)
      = foldCase fold xs ++ written ms ++ foldCase fold ys := by
  cases fold with
  | false => rfl
  | true => exact lower_append_written h xs ys

end Marker

/-- The tokens of a folded pattern with markers in it. -/
theorem Token.read_foldCase_written (fold : Bool) {ms : List Marker} (h : ms ≠ [])
    (xs ys : List Char) : Token.read (foldCase fold (xs ++ Marker.written ms ++ ys))
      = Token.read (foldCase fold xs) ++ ms.map Marker.token
        ++ Token.read (foldCase fold ys) := by
  rw [Marker.foldCase_append_written fold h, Token.read_append_written h]

/-! ## Dividing texts among adjacent markers -/

namespace Marker

/-- A text has the length that the markers ask for. -/
def Fills (ms : List Marker) (length : Nat) : Prop :=
  if run ∈ ms then ms.count one ≤ length else length = ms.count one

theorem fills_one_cons (ms : List Marker) (n : Nat) : Fills (one :: ms) (n + 1) ↔ Fills ms n := by
  simp [Fills]

theorem not_fills_one_cons_zero (ms : List Marker) : ¬Fills (one :: ms) 0 := by
  simp only [Fills, List.count_cons_self]
  split
  · omega
  · omega

theorem fills_run_cons (ms : List Marker) (n : Nat) :
    Fills (run :: ms) n ↔ ∃ k, k ≤ n ∧ Fills ms k := by
  have hcount : (run :: ms).count one = ms.count one := List.count_cons_of_ne (by decide)
  simp only [Fills, List.mem_cons_self, if_true, hcount]
  constructor
  · intro h
    refine ⟨ms.count one, h, ?_⟩
    split
    · exact Nat.le_refl _
    · rfl
  · rintro ⟨k, hk, hfills⟩
    split at hfills
    · omega
    · omega

/-- **A text is divided among adjacent markers exactly if it holds no line break and has the
length that they ask for.** -/
theorem divides_tokens (ms : List Marker) (part : List Char) :
    Divides Token.Takes (ms.map token) part ↔
      (∀ c ∈ part, c ∉ Token.lineBreaks) ∧ Fills ms part.length := by
  induction ms generalizing part with
  | nil =>
    rw [List.map_nil, divides_nil]
    constructor
    · rintro rfl
      simp [Fills]
    · rintro ⟨_, h⟩
      exact List.length_eq_zero_iff.mp (by simpa [Fills] using h)
  | cons m ms ih =>
    rw [List.map_cons, divides_cons]
    cases m with
    | one =>
      constructor
      · rintro ⟨_, rest, rfl, ⟨c, rfl, hc⟩, hrest⟩
        obtain ⟨hbreaks, hfills⟩ := (ih rest).mp hrest
        exact ⟨List.forall_mem_cons.mpr ⟨hc, hbreaks⟩, (fills_one_cons ms _).mpr hfills⟩
      · rintro ⟨hbreaks, hfills⟩
        cases part with
        | nil => exact absurd hfills (not_fills_one_cons_zero ms)
        | cons c rest =>
          obtain ⟨hc, hbreaks⟩ := List.forall_mem_cons.mp hbreaks
          have hrest := (ih rest).mpr ⟨hbreaks, (fills_one_cons ms _).mp hfills⟩
          exact ⟨[c], rest, rfl, ⟨c, rfl, hc⟩, hrest⟩
    | run =>
      rw [fills_run_cons]
      constructor
      · rintro ⟨first, rest, rfl, hfirst, hrest⟩
        obtain ⟨hbreaks, hfills⟩ := (ih rest).mp hrest
        refine ⟨List.forall_mem_append.mpr ⟨hfirst, hbreaks⟩, rest.length, ?_, hfills⟩
        simp
      · rintro ⟨hbreaks, k, hk, hfills⟩
        -- The run takes what the other markers have no need of.
        refine ⟨part.take (part.length - k), part.drop (part.length - k),
          (List.take_append_drop ..).symm, ?_, (ih _).mpr ⟨?_, ?_⟩⟩
        · exact fun c hc => hbreaks c (List.mem_of_mem_take hc)
        · exact fun c hc => hbreaks c (List.mem_of_mem_drop hc)
        · rw [List.length_drop, Nat.sub_sub_self hk]
          exact hfills

/-- The same number of markers for one character, and in both a marker for a run or in
none. -/
structure Alike (r s : List Marker) : Prop where
  count_one : r.count one = s.count one
  run_mem : run ∈ r ↔ run ∈ s

theorem Alike.fills_iff {r s : List Marker} (h : Alike r s) (n : Nat) : Fills r n ↔ Fills s n := by
  simp only [Fills, h.count_one, h.run_mem]

theorem Alike.ne_nil {r s : List Marker} (h : Alike r s) (hr : r ≠ []) : s ≠ [] := by
  rintro rfl
  obtain ⟨m, hm⟩ := List.exists_mem_of_ne_nil r hr
  cases m with
  | one => exact absurd hm (List.count_eq_zero.mp h.count_one)
  | run => exact absurd (h.run_mem.mp hm) (by simp)

theorem Alike.divides_iff {r s : List Marker} (h : Alike r s) (xs ys : List Token)
    (part : List Char) :
    Divides Token.Takes (xs ++ r.map token ++ ys) part ↔
      Divides Token.Takes (xs ++ s.map token ++ ys) part := by
  simp only [divides_append_iff, divides_tokens, h.fills_iff]

end Marker

/-! ## Runs before and after a pattern -/

/-- Tokens that may take nothing do not matter before and after others. -/
theorem Token.exists_part_around {front back : List Token} (hfront : Divides Token.Takes front [])
    (hback : Divides Token.Takes back []) (ts : List Token) (text : List Char) :
    (∃ part, part <:+: text ∧ Divides Token.Takes (front ++ ts ++ back) part) ↔
      ∃ part, part <:+: text ∧ Divides Token.Takes ts part := by
  constructor
  · rintro ⟨part, hpart, hdivides⟩
    obtain ⟨most, last, rfl, hmost, _⟩ := divides_append_iff.mp hdivides
    obtain ⟨first, middle, rfl, _, hmiddle⟩ := divides_append_iff.mp hmost
    have hinfix : middle <:+: first ++ middle ++ last := ⟨first, last, rfl⟩
    exact ⟨middle, hinfix.trans hpart, hmiddle⟩
  · rintro ⟨part, hpart, hdivides⟩
    have haround := divides_append (divides_append hfront hdivides) hback
    rw [List.nil_append, List.append_nil] at haround
    exact ⟨part, hpart, haround⟩

/-- The pattern as it is, and with a marker for a run before it, after it, or both. -/
def withRuns (pattern : String) : List String :=
  [pattern, "$*" ++ pattern, pattern ++ "$*", "$*" ++ pattern ++ "$*"]

theorem foldCase_nil (fold : Bool) : foldCase fold [] = [] := by
  cases fold <;> rfl

theorem read_foldCase_run_append (fold : Bool) (pattern : String) :
    Token.read (foldCase fold ("$*" ++ pattern).toList)
      = Token.run :: Token.read (foldCase fold pattern.toList) := by
  have hread := Token.read_foldCase_written fold (List.cons_ne_nil Marker.run []) [] pattern.toList
  rw [foldCase_nil] at hread
  rw [String.toList_append]
  exact hread

theorem read_foldCase_append_run (fold : Bool) (pattern : String) :
    Token.read (foldCase fold (pattern ++ "$*").toList)
      = Token.read (foldCase fold pattern.toList) ++ [Token.run] := by
  have hread := Token.read_foldCase_written fold (List.cons_ne_nil Marker.run []) pattern.toList []
  rw [foldCase_nil, List.append_nil, Token.read_nil, List.append_nil] at hread
  rw [String.toList_append]
  exact hread

theorem exists_read_withRuns (fold : Bool) {pattern p : String} (h : p ∈ withRuns pattern) :
    ∃ front back, Divides Token.Takes front [] ∧ Divides Token.Takes back [] ∧
      Token.read (foldCase fold p.toList)
        = front ++ Token.read (foldCase fold pattern.toList) ++ back := by
  have hnil : Divides Token.Takes [] [] := (divides_nil Token.Takes []).mpr rfl
  have hrun : Divides Token.Takes [Token.run] [] :=
    divides_singleton.mpr fun c hc => absurd hc List.not_mem_nil
  have hp : p = pattern ∨ p = "$*" ++ pattern ∨ p = pattern ++ "$*" ∨
      p = "$*" ++ pattern ++ "$*" := by
    simpa [withRuns] using h
  rcases hp with rfl | rfl | rfl | rfl
  · exact ⟨[], [], hnil, hnil, (List.append_nil _).symm⟩
  · refine ⟨[.run], [], hrun, hnil, ?_⟩
    rw [read_foldCase_run_append, List.append_nil, List.singleton_append]
  · refine ⟨[], [.run], hnil, hrun, ?_⟩
    rw [read_foldCase_append_run, List.nil_append]
  · refine ⟨[.run], [.run], hrun, hrun, ?_⟩
    rw [read_foldCase_append_run, read_foldCase_run_append, List.singleton_append]

theorem exists_part_withRuns (fold : Bool) {pattern p : String} (h : p ∈ withRuns pattern)
    (text : List Char) :
    (∃ part, part <:+: text ∧ Divides Token.Takes (Token.read (foldCase fold p.toList)) part) ↔
      ∃ part, part <:+: text ∧
        Divides Token.Takes (Token.read (foldCase fold pattern.toList)) part := by
  obtain ⟨front, back, hfront, hback, hread⟩ := exists_read_withRuns fold h
  rw [hread]
  exact Token.exists_part_around hfront hback _ text

/-! ## Matches -/

namespace Matcher

/-- **Of adjacent markers only the number of those for one character matters, and whether
there is one for a run**, although the expressions of the patterns are others. -/
theorem matches_markers {accepts : List Char → Bool} {search : List Char → List Char → Bool}
    (hsearch : Regex.IsStandard search) {r s : List Marker} (hr : r ≠ [])
    (h : Marker.Alike r s) {before after : String} {ignoreCase : Bool}
    (hcr : ∃ m,
      compileFor accepts (before ++ Marker.pattern r ++ after) ⟨ignoreCase, true⟩ = .ok m)
    (hcs : ∃ m,
      compileFor accepts (before ++ Marker.pattern s ++ after) ⟨ignoreCase, true⟩ = .ok m)
    (text : String) :
    ∀ answer ∈ [matchOnceFor accepts, matchOnceBy accepts search],
      answer text (before ++ Marker.pattern r ++ after) ⟨ignoreCase, true⟩
        = answer text (before ++ Marker.pattern s ++ after) ⟨ignoreCase, true⟩ := by
  refine forall_answers hsearch (matchOnceFor_congr hcr hcs ?_)
  have hs := h.ne_nil hr
  simp only [matchOnceFor_iff, hcr, hcs, tokens_true, String.toList_append, Marker.toList_pattern,
    Token.read_foldCase_written ignoreCase hr, Token.read_foldCase_written ignoreCase hs,
    h.divides_iff]

/-- A dollar before the markers, and after them a sign that a marker may end in. The markers
ask for two characters, in whatever order they stand. -/
theorem marker_order_free :
    Regex.IsStandard Regex.search ∧
    Marker.Alike [.one, .run, .one] [.run, .run, .one, .one] ∧
    "Α$" ++ Marker.pattern [.one, .run, .one] ++ "*Σ" = "Α$$?$*$?*Σ" ∧
    "Α$" ++ Marker.pattern [.run, .run, .one, .one] ++ "*Σ" = "Α$$*$*$?$?*Σ" ∧
    matchOnceBy isWithinLimit Regex.search "zΑ$uv*Σ" "Α$$?$*$?*Σ" ⟨true, true⟩ = .ok true ∧
    matchOnceBy isWithinLimit Regex.search "zΑ$uv*Σ" "Α$$*$*$?$?*Σ" ⟨true, true⟩ = .ok true ∧
    matchOnce "zΑ$u*Σ" "Α$$?$*$?*Σ" ⟨true, true⟩ = .ok false ∧
    matchOnce "zΑ$u*Σ" "Α$$*$*$?$?*Σ" ⟨true, true⟩ = .ok false := by
  have halike : Marker.Alike [.one, .run, .one] [.run, .run, .one, .one] := ⟨by decide, by decide⟩
  have hr : "Α$" ++ Marker.pattern [.one, .run, .one] ++ "*Σ" = "Α$$?$*$?*Σ" := by decide
  have hs : "Α$" ++ Marker.pattern [.run, .run, .one, .one] ++ "*Σ" = "Α$$*$*$?$?*Σ" := by decide
  have hcr : ∃ m, compileFor isWithinLimit "Α$$?$*$?*Σ" ⟨true, true⟩ = .ok m := ⟨_, rfl⟩
  have hcs : ∃ m, compileFor isWithinLimit "Α$$*$*$?$?*Σ" ⟨true, true⟩ = .ok m := ⟨_, rfl⟩
  have hyes : matchOnceBy isWithinLimit Regex.search "zΑ$uv*Σ" "Α$$?$*$?*Σ" ⟨true, true⟩ = .ok true := by
    rw [matchOnceBy_eq isWithinLimit Regex.isStandard_search]
    decide +kernel
  have hno : matchOnce "zΑ$u*Σ" "Α$$?$*$?*Σ" ⟨true, true⟩ = .ok false := by decide +kernel
  have hlong := matches_markers Regex.isStandard_search (by simp) halike (hr ▸ hcr) (hs ▸ hcs)
    "zΑ$uv*Σ" (matchOnceBy isWithinLimit Regex.search) (by simp)
  have hshort := matches_markers Regex.isStandard_search (by simp) halike (hr ▸ hcr) (hs ▸ hcs)
    "zΑ$u*Σ" (matchOnceFor isWithinLimit) (by simp)
  rw [hr, hs] at hlong hshort
  exact ⟨Regex.isStandard_search, halike, hr, hs, hyes, hlong.symm.trans hyes, hno,
    hshort.symm.trans hno⟩

/-- **Markers for a run before and after a pattern do not matter**; and without other markers
in it, it does not matter either whether the wildcards are switched on. -/
theorem matches_runs_around {accepts : List Char → Bool}
    {search : List Char → List Char → Bool} (hsearch : Regex.IsStandard search)
    {pattern p q : String} (hp : p ∈ withRuns pattern) (hq : q ∈ withRuns pattern)
    {ignoreCase : Bool} (hcp : ∃ m, compileFor accepts p ⟨ignoreCase, true⟩ = .ok m)
    (hcq : ∃ m, compileFor accepts q ⟨ignoreCase, true⟩ = .ok m) (text : String) :
    ∀ answer ∈ [matchOnceFor accepts, matchOnceBy accepts search],
      answer text p ⟨ignoreCase, true⟩ = answer text q ⟨ignoreCase, true⟩ ∧
      (IsPlain pattern.toList →
        answer text p ⟨ignoreCase, true⟩ = answer text pattern ⟨ignoreCase, false⟩) := by
  refine forall_answers hsearch ⟨matchOnceFor_congr hcp hcq ?_, fun hplain => ?_⟩
  · simp only [matchOnceFor_iff, hcp, hcq, tokens_true, exists_part_withRuns ignoreCase hp,
      exists_part_withRuns ignoreCase hq]
  · have hliteral : ∃ m, compileFor accepts pattern ⟨ignoreCase, false⟩ = .ok m := ⟨_, rfl⟩
    apply matchOnceFor_congr hcp hliteral
    simp only [matchOnceFor_iff, hcp, hliteral, tokens_true, tokens_false,
      exists_part_withRuns ignoreCase hp, Token.read_foldCase_of_plain hplain]

/-- The pattern ends in a dollar, before which its sigma stays final; in the second text it
does not stand before the dollar. -/
theorem runs_around_dollar :
    Regex.IsStandard Regex.search ∧
    "$*ΑΣ$$*" ∈ withRuns "ΑΣ$" ∧ "ΑΣ$" ∈ withRuns "ΑΣ$" ∧ IsPlain "ΑΣ$".toList ∧
    matchOnceBy isWithinLimit Regex.search "xΑΣ$y" "$*ΑΣ$$*" ⟨true, true⟩ = .ok true ∧
    matchOnceBy isWithinLimit Regex.search "xΑΣ$y" "ΑΣ$" ⟨true, true⟩ = .ok true ∧
    matchOnceBy isWithinLimit Regex.search "xΑΣ$y" "ΑΣ$" ⟨true, false⟩ = .ok true ∧
    matchOnce "xΑΣΑ$y" "$*ΑΣ$$*" ⟨true, true⟩ = .ok false ∧
    matchOnce "xΑΣΑ$y" "ΑΣ$" ⟨true, true⟩ = .ok false ∧
    matchOnce "xΑΣΑ$y" "ΑΣ$" ⟨true, false⟩ = .ok false := by
  have hboth : "$*ΑΣ$$*" ∈ withRuns "ΑΣ$" := by decide
  have hself : "ΑΣ$" ∈ withRuns "ΑΣ$" := by decide
  have hplain : IsPlain "ΑΣ$".toList := ⟨by decide, by decide⟩
  have hcompile : ∃ m, compileFor isWithinLimit "$*ΑΣ$$*" ⟨true, true⟩ = .ok m := ⟨_, rfl⟩
  have hliteral : ∃ m, compileFor isWithinLimit "ΑΣ$" ⟨true, true⟩ = .ok m := ⟨_, rfl⟩
  have hyes : matchOnceBy isWithinLimit Regex.search "xΑΣ$y" "$*ΑΣ$$*" ⟨true, true⟩ = .ok true := by
    rw [matchOnceBy_eq isWithinLimit Regex.isStandard_search]
    decide +kernel
  have hno : matchOnce "xΑΣΑ$y" "$*ΑΣ$$*" ⟨true, true⟩ = .ok false := by decide +kernel
  have hfound := matches_runs_around Regex.isStandard_search hboth hself hcompile hliteral
    "xΑΣ$y" (matchOnceBy isWithinLimit Regex.search) (by simp)
  have hlost := matches_runs_around Regex.isStandard_search hboth hself hcompile hliteral
    "xΑΣΑ$y" (matchOnceFor isWithinLimit) (by simp)
  exact ⟨Regex.isStandard_search, hboth, hself, hplain, hyes, hfound.1.symm.trans hyes,
    (hfound.2 hplain).symm.trans hyes, hno, hlost.1.symm.trans hno,
    (hlost.2 hplain).symm.trans hno⟩

end Matcher

end TagQuery
