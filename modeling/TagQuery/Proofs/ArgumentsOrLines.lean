import TagQuery.Files.Tree
import TagQuery.Proofs.Outcomes
import TagQuery.Proofs.ReadLines
import TagQuery.Proofs.ReadingArguments

/-!
Values given as arguments and values given as lines. A parse and a match go through the
values behind two dashes, or else through the lines of the input; with nothing logged it
cannot be told from the outcome which they were.

* `LeavesValuesOut`: arguments of a parse or a match without the values to go through;
* `readArguments_withValues`: values put behind them become those of the request;
* `runRequest_withValues`: the request comes to the same for its own values and for lines;
* `run_withValues`: **the two runs have the same outcome.**
-/

namespace TagQuery

/-- The request with other values to go through. -/
def Request.withValues (values : List String) : Request → Request
  | parse _ format => parse values format
  | find a => find { a with haystacks := values }
  | escape _ => escape values

/-- Arguments that call for a parse or a match and leave out what it goes through: all
values of a parse, and all but the pattern of a match. They may be at fault. -/
def LeavesValuesOut (args : List String) : Prop :=
  ∃ outer level rest, readProgram {} args = .ok (outer, some (level, rest)) ∧
    ((level = .parse ∧
        ∀ inner, Given.readCommand level {} rest = .ok inner → inner.values = []) ∨
      (level = .find ∧
        ∀ inner, Given.readCommand level {} rest = .ok inner → inner.values.length = 1))

/-- A request that reads lines has no values but a pattern. -/
theorem Given.values_of_request {inner : Given} {level : Level} {r : Request}
    (h : inner.request level = .ok (some r)) (hr : r.readsInput = true) :
    (level = .parse ∧ inner.values = []) ∨ (level = .find ∧ inner.values.length = 1) := by
  cases level with
  | program => simp [request] at h
  | parse =>
    obtain rfl := Option.some.inj (Except.ok.inj h)
    exact .inl ⟨rfl, by simpa [Request.readsInput] using hr⟩
  | find =>
    refine .inr ⟨rfl, ?_⟩
    rw [request] at h
    split at h
    · cases h
    next pattern haystacks hvalues =>
      obtain rfl := Option.some.inj (Except.ok.inj h)
      have hnone : haystacks = [] := by simpa [Request.readsInput] using hr
      rw [← List.length_reverse, hvalues, hnone]
      rfl
  | escape =>
    rw [request] at h
    split at h
    · cases h
    · obtain rfl := Option.some.inj (Except.ok.inj h)
      simp [Request.readsInput] at hr

/-- Accepted arguments leave the values out if their request reads lines. -/
theorem leavesValuesOut_of_accepted {fallback? named? : Option String} {args : List String}
    {r : Request} (h : readArguments fallback? args = .ok ⟨named?, some r⟩)
    (hr : r.readsInput = true) : LeavesValuesOut args := by
  obtain ⟨outer, level, rest, inner, hread, hinner, hrequest⟩ := exists_of_readArguments h
  refine ⟨outer, level, rest, hread, ?_⟩
  have hvalues := Given.values_of_request hrequest hr
  rw [hinner]
  rcases hvalues with ⟨rfl, hvalues⟩ | ⟨rfl, hvalues⟩
  · exact .inl ⟨rfl, fun _ he => Except.ok.inj he ▸ hvalues⟩
  · exact .inr ⟨rfl, fun _ he => Except.ok.inj he ▸ hvalues⟩

/-! ## The request -/

theorem Given.request_addValues_parse {inner : Given} (h : inner.values = [])
    (values : List String) :
    ∃ r, r.readsInput = true ∧ inner.request .parse = .ok (some r) ∧
      (inner.addValues values).request .parse = .ok (some (r.withValues values)) := by
  refine ⟨.parse [] (inner.format?.getD .text), rfl, ?_, ?_⟩
  · simp [request, h]
  · simp [request, addValues, h, Request.withValues]

theorem Given.request_addValues_find {inner : Given} (h : inner.values.length = 1)
    (values : List String) :
    ∃ r, r.readsInput = true ∧ inner.request .find = .ok (some r) ∧
      (inner.addValues values).request .find = .ok (some (r.withValues values)) := by
  obtain ⟨pattern, hpattern⟩ := List.length_eq_one_iff.mp h
  refine ⟨.find ⟨pattern, [], inner.flags.contains .ignoreCase,
    inner.flags.contains .caseSensitive, inner.flags.contains .wildcard,
    inner.flags.contains .noWildcard, inner.format?.getD .text⟩, rfl, ?_, ?_⟩
  · simp [request, hpattern]
  · simp [request, addValues, hpattern, Request.withValues]

/-- Either both readings come to the same halt, or the second one has the request of the
first with the values in it. -/
theorem readArguments_withValues {args : List String} (h : LeavesValuesOut args)
    (fallback? : Option String) (values : List String) :
    (∃ halt, readArguments fallback? args = .error halt ∧
      readArguments fallback? (withValues args values) = .error halt) ∨
    ∃ named? r, r.readsInput = true ∧ readArguments fallback? args = .ok ⟨named?, some r⟩ ∧
      readArguments fallback? (withValues args values)
        = .ok ⟨named?, some (r.withValues values)⟩ := by
  obtain ⟨outer, level, rest, hread, hvalues⟩ := h
  obtain ⟨front, rfl, hfront, hmore⟩ := exists_of_readProgram hread
  rw [withValues_append hfront]
  simp only [readArguments, hmore, bind, Except.bind, Given.readCommand_withValues]
  cases hinner : Given.readCommand level {} rest with
  | error halt => exact .inl ⟨halt, rfl, rfl⟩
  | ok inner =>
    have hcheck : checkVariable fallback? (inner.addValues values)
        = checkVariable fallback? inner := rfl
    have hrequest : ∃ r, r.readsInput = true ∧ inner.request level = .ok (some r) ∧
        (inner.addValues values).request level = .ok (some (r.withValues values)) := by
      rcases hvalues with ⟨rfl, hvalues⟩ | ⟨rfl, hvalues⟩
      · exact Given.request_addValues_parse (hvalues inner hinner) values
      · exact Given.request_addValues_find (hvalues inner hinner) values
    obtain ⟨r, hreads, hr, hadded⟩ := hrequest
    simp only [Except.map, hcheck, hr, hadded]
    cases checkVariable fallback? inner with
    | error halt => exact .inl ⟨halt, rfl, rfl⟩
    | ok _ =>
      simp only [pure, Except.pure]
      cases outer.settle with
      | error halt => exact .inl ⟨halt, rfl, rfl⟩
      | ok outer =>
        simp only
        cases checkVariable fallback? outer with
        | error halt => exact .inl ⟨halt, rfl, rfl⟩
        | ok _ => exact .inr ⟨_, r, hreads, rfl, rfl⟩

/-! ## The run -/

theorem valuesOrLines_values {values : List String} (h : values ≠ []) (input : List UInt8) :
    valuesOrLines values input = ([], .ok values) := by
  simp [valuesOrLines, h]

theorem valuesOrLines_lines {lines : List (String × Text.LineEnd)}
    (h : ∀ l ∈ lines, Text.IsLine l.1) :
    valuesOrLines [] (Text.terminated lines)
      = ([.debug inputSource "no arguments, reading lines from stdin"],
        .ok (lines.map Prod.fst)) := by
  simp [valuesOrLines, Text.readLines_terminated h]

section Runs

variable {lines : List (String × Text.LineEnd)} (hne : lines ≠ [])
  (hlines : ∀ l ∈ lines, Text.IsLine l.1) {filter : Log.Filter} (hoff : filter.IsOff)
  (s : Surroundings) (args : List String)

include hne hlines hoff

theorem runParse_lines (format : Format) :
    (runParse (lines.map Prod.fst) format s).outcome filter
      = (runParse [] format { s with args, input := Text.terminated lines }).outcome filter := by
  have hvalues : lines.map Prod.fst ≠ [] := by simpa using hne
  apply outcome_congr
  · simp only [runParse, valuesOrLines_values hvalues, valuesOrLines_lines hlines]
    rfl
  · simp [runParse, valuesOrLines_values hvalues, valuesOrLines_lines hlines, text?_debug hoff]

theorem runFind_lines (named? : Option String) {a : MatchArguments} (ha : a.haystacks = []) :
    (runFind named? { a with haystacks := lines.map Prod.fst } s).outcome filter
      = (runFind named? a { s with args, input := Text.terminated lines }).outcome filter := by
  have hvalues : lines.map Prod.fst ≠ [] := by simpa using hne
  have hconfig : configInForce named? { s with args, input := Text.terminated lines }
      = configInForce named? s := rfl
  have hoptions (defaults : MatchOptions) :
      { a with haystacks := lines.map Prod.fst }.options defaults = a.options defaults := rfl
  simp only [runFind, hconfig, hoptions, ha, valuesOrLines_values hvalues,
    valuesOrLines_lines hlines]
  cases (configInForce named? s).2 with
  | error e => rfl
  | ok config =>
    simp only
    cases Matcher.compileFor s.accepts a.pattern (a.options config.matching) with
    | error e => rfl
    | ok m =>
      apply outcome_congr
      · rfl
      · simp [text?_debug hoff]

/-- **A request comes to the same for its own values and for lines.** -/
theorem runRequest_withValues {r : Request} (hr : r.readsInput = true)
    (named? : Option String) :
    (runRequest named? (r.withValues (lines.map Prod.fst)) s).outcome filter
      = (runRequest named? r { s with args, input := Text.terminated lines }).outcome filter := by
  cases r with
  | parse queries format =>
    have hqueries : queries = [] := by simpa [Request.readsInput] using hr
    rw [hqueries]
    exact runParse_lines hne hlines hoff s args format
  | find a =>
    have ha : a.haystacks = [] := by simpa [Request.readsInput] using hr
    exact runFind_lines hne hlines hoff s args named? ha
  | escape values => simp [Request.readsInput] at hr

end Runs

/-- **Values behind two dashes and lines of the input have the same outcome** in a parse
and in a match, for every choice of line endings, whatever was on the input before and
also if the arguments before the values are at fault. -/
theorem run_withValues {s : Surroundings} (hoff : s.logFilter.IsOff) {args : List String}
    (hargs : LeavesValuesOut args) {lines : List (String × Text.LineEnd)} (hne : lines ≠ [])
    (hlines : ∀ l ∈ lines, Text.IsLine l.1) :
    run { s with args := withValues args (lines.map Prod.fst) }
      = run { s with args, input := Text.terminated lines } := by
  have hread := readArguments_withValues hargs (s.valueOf? "TAGSEARCH_CONFIG")
    (lines.map Prod.fst)
  rcases hread with ⟨halt, hleft, hadded⟩ | ⟨named?, r, hr, hleft, hadded⟩
  · have hhalt := run_of_halt (s := { s with args := withValues args (lines.map Prod.fst) }) hadded
    have hhalt' := run_of_halt (s := { s with args, input := Text.terminated lines }) hleft
    rw [hhalt, hhalt']
    cases halt <;> rfl
  · have hrun := run_of_request (s := { s with args := withValues args (lines.map Prod.fst) }) hadded
    have hrun' := run_of_request (s := { s with args, input := Text.terminated lines }) hleft
    rw [hrun, hrun']
    exact runRequest_withValues hne hlines hoff
      { s with args := withValues args (lines.map Prod.fst) } args hr named?

/-- The root of an empty tree, with no variable set. -/
def emptyRoot : Surroundings where
  args := []
  input := []
  environment := []
  files := (FileTree.directory []).files "/"
  cwd := "/"

/-- The pattern starts with a dash, a line is empty, and one has a return inside. -/
theorem dashed_pattern_on_lines :
    emptyRoot.logFilter.IsOff ∧ LeavesValuesOut ["match", "-s", "--", "-x$*"] ∧
    [("", .newline), ("-xa\rb", .returnNewline), ("é-X", Text.LineEnd.newline)] ≠ [] ∧
    (∀ l ∈ [("", .newline), ("-xa\rb", .returnNewline), ("é-X", Text.LineEnd.newline)],
      Text.IsLine l.1) ∧
    run { emptyRoot with args := ["match", "-s", "--", "-x$*", "", "-xa\rb", "é-X"] }
      = run { emptyRoot with
          args := ["match", "-s", "--", "-x$*"]
          input := utf8Bytes "\n-xa\rb\r\né-X\n".toList } ∧
    run { emptyRoot with args := ["match", "-s", "--", "-x$*", "", "-xa\rb", "é-X"] }
      = ⟨.success, "-xa\rb\n", ""⟩ := by
  have hoff : emptyRoot.logFilter.IsOff := isOff_of_unset rfl
  have haccepted : readArguments none ["match", "-s", "--", "-x$*"]
      = .ok ⟨none, some (.find ⟨"-x$*", [], false, true, false, false, .text⟩)⟩ := by
    decide +kernel
  have hargs := leavesValuesOut_of_accepted haccepted rfl
  have hlines : ∀ l ∈ [("", .newline), ("-xa\rb", .returnNewline), ("é-X", Text.LineEnd.newline)],
      Text.IsLine l.1 := by
    simp only [List.forall_mem_cons]
    exact ⟨⟨by decide, by decide⟩, ⟨by decide, by decide⟩, ⟨by decide, by decide⟩, by simp⟩
  have hruns := run_withValues hoff hargs (by simp) hlines
  refine ⟨hoff, hargs, by simp, hlines, hruns, by decide +kernel⟩

end TagQuery
