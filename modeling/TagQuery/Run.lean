import TagQuery.CommandLine.Parser
import TagQuery.Config.Locate
import TagQuery.Like
import TagQuery.Log.Notice
import TagQuery.Output.Report
import TagQuery.Query.Cache
import TagQuery.Text.Lines

/-!
A whole run: from the arguments, the variables, the standard input and the files
to what is printed and the code at the end.
-/

namespace TagQuery

/-- All that a run depends on. -/
structure Surroundings where
  args : List String
  input : List UInt8
  environment : List (String × String)
  files : Files
  /-- The working directory, where it can be told. -/
  cwd : String
  /-- Why the working directory cannot be told. -/
  cwdFault? : Option ReadFault := none
  /-- Which patterns with wildcards, folded if case is ignored, can be compiled. -/
  accepts : List Char → Bool := Matcher.isWithinLimit

structure Outcome where
  code : ExitCode
  out : String
  err : String
  deriving DecidableEq, Repr

namespace Surroundings

def valueOf? (s : Surroundings) (name : String) : Option String := s.environment.lookup name

/-- Colour is asked for by one variable and forbidden by another. The output is
taken for no terminal. -/
def color (s : Surroundings) : Bool :=
  (s.valueOf? "NO_COLOR").isNone && (s.valueOf? "COLOR").isSome

/-- Help pages and messages about wrong arguments keep their marks only if one
variable forces them and the one that forbids colour is empty. -/
def keepsMarks (s : Surroundings) : Bool :=
  (s.valueOf? "NO_COLOR").getD "" = "" && (s.valueOf? "CLICOLOR_FORCE").getD "" ≠ ""

/-- A marked text as it is written. -/
def shown (s : Surroundings) (marked : String) : String :=
  if s.keepsMarks then marked else Escapes.strip marked

/-- Without a filter nothing is logged. -/
def logFilter (s : Surroundings) : Log.Filter :=
  match s.valueOf? "TAGSEARCH_LOG" with
  | none => []
  | some text => Log.Filter.ofText text

end Surroundings

/-- What a command comes to: its notices, and the exit code with the output, or a
failure. -/
structure Result where
  notices : List Notice
  answer : Except Failure (ExitCode × String)

/-- The values given as arguments, or else the lines of the input. -/
def valuesOrLines (values : List String) (input : List UInt8) :
    List Notice × Except Failure (List String) :=
  if values.isEmpty then
    ([.debug inputSource "no arguments, reading lines from stdin"],
      match Text.readLines input with
      | some lines => .ok lines
      | none => .error (.io "<stdin>" ReadFault.notText.message))
  else ([], .ok values)

/-- Parses queries one after the other with one cache. -/
def parseAll : Cache → List String → List Notice × List ParsedQuery × Cache
  | cache, [] => ([], [], cache)
  | cache, query :: rest =>
    let (cs, next) := cache.parse query
    let notice : Notice :=
      if cache.holds query then
        .event ⟨.trace, cacheSource, "query cache hit: " ++ Text.quoted query⟩
      else .debug cacheSource
        ("parsed query " ++ Text.quoted query ++ " into " ++ toString cs.length ++ " components")
    let (notices, parsed, last) := parseAll next rest
    (notice :: notices, ⟨query, cs⟩ :: parsed, last)

def runParse (queries : List String) (format : Format) (s : Surroundings) : Result :=
  let (notices, queries?) := valuesOrLines queries s.input
  match queries? with
  | .error e => ⟨notices, .error e⟩
  | .ok queries =>
    let (perQuery, parsed, cache) := parseAll {} queries
    let stats := cache.stats
    let summary := "parsed " ++ toString queries.length ++ " queries (" ++ toString stats.entries
      ++ " unique, " ++ toString stats.hits ++ " cache hits)"
    let out := match format with
      | .text => String.join (parsed.map (ParsedQuery.text s.color))
      | .json => (Json.list (parsed.map ParsedQuery.toJson)).document
    ⟨notices ++ perQuery ++ [.debug parseSource summary], .ok (.success, out)⟩

/-- The configuration in force. Without a working directory there is none, not even
one that the user names. -/
def configInForce (named? : Option String) (s : Surroundings) :
    List Notice × Except Failure Config :=
  match s.cwdFault? with
  | some fault => ([], .error (.io "." fault.message))
  | none =>
    let (warnings, resolved?) := Config.resolve s.files named? s.cwd
    match resolved? with
    | .error e => (warnings, .error e)
    | .ok (config, source) =>
      (warnings ++ [.debug findSource ("config: " ++ source.text)], .ok config)

def MatchOptions.shown (o : MatchOptions) : String :=
  "MatchOptions \x7b ignore_case: " ++ toString o.ignoreCase ++ ", enable_wildcard: "
    ++ toString o.wildcards ++ " \x7d"

def MatchReport.print (r : MatchReport) : Format → String
  | .text => linesText r.matched
  | .json => r.toJson.document

def runFind (named? : Option String) (a : MatchArguments) (s : Surroundings) : Result :=
  let (notices, config?) := configInForce named? s
  match config? with
  | .error e => ⟨notices, .error e⟩
  | .ok config =>
    let options := a.options config.matching
    let notices := notices
      ++ [.debug findSource ("match options: " ++ options.shown)]
    match Matcher.compileFor s.accepts a.pattern options with
    | .error e => ⟨notices, .error (.pattern e)⟩
    | .ok matcher =>
      let (reading, haystacks?) := valuesOrLines a.haystacks s.input
      match haystacks? with
      | .error e => ⟨notices ++ reading, .error e⟩
      | .ok haystacks =>
        let matched := haystacks.filter matcher.isMatch
        let summary := toString matched.length ++ " of " ++ toString haystacks.length
          ++ " haystacks matched"
        ⟨notices ++ reading ++ [.debug findSource summary],
          .ok (if matched.isEmpty then .noMatch else .success,
            MatchReport.print ⟨a.pattern, options, matched⟩ a.format)⟩

def runRequest (named? : Option String) (r : Request) (s : Surroundings) : Result :=
  match r with
  | .parse queries format => runParse queries format s
  | .find a => runFind named? a s
  | .escape values => ⟨[], .ok (.success, linesText (values.map Like.escape))⟩

/-- What is printed for a result. A failure is told last, and leaves the output
empty. -/
def Result.outcome (r : Result) (filter : Log.Filter) : Outcome :=
  let lines := r.notices.filterMap (Notice.text? filter)
  match r.answer with
  | .ok (code, out) => ⟨code, out, linesText lines⟩
  | .error e => ⟨e.exitCode, "", linesText (lines ++ ["tagsearch: " ++ e.message])⟩

def Halt.outcome (s : Surroundings) (config : String) : Halt → Outcome
  | .help page => ⟨.success, s.shown (page.text config), ""⟩
  | .version level => ⟨.success, level.versionLine.push '\n', ""⟩
  | .fault f => ⟨.refused, "", (s.shown f.marked).push '\n'⟩

def run (s : Surroundings) : Outcome :=
  let fallback? := s.valueOf? "TAGSEARCH_CONFIG"
  let config := fallback?.getD ""
  match readArguments fallback? s.args with
  | .error halt => halt.outcome s config
  | .ok ⟨_, none⟩ => ⟨.success, (s.shown ((Page.level .program).text config)).push '\n', ""⟩
  | .ok ⟨named?, some request⟩ => (runRequest named? request s).outcome s.logFilter

end TagQuery
