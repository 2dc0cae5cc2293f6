import TagQuery.CommandLine.Arguments
import TagQuery.CommandLine.Emphasis

/-!
The help pages and version lines, with their marks for a terminal.
-/

namespace TagQuery

/-- The page of the program or of a command, or that of the command for help. -/
inductive Page where
  | level (l : Level)
  | help
  deriving DecidableEq, Repr

def versionNumber : String := "0.1.0"

def Level.versionLine : Level → String
  | program => "tagsearch " ++ versionNumber
  | parse => "tagsearch-parse " ++ versionNumber
  | find => "tagsearch-match " ++ versionNumber
  | escape => "tagsearch-escape-like " ++ versionNumber

/-- A help page in paragraphs of lines. -/
def paragraphs (ps : List (List String)) : String :=
  "\n".intercalate (ps.map fun lines => String.join (lines.map (·.push '\n')))

/-- A line of a table: a label, its marked form, and what it stands for. -/
structure Entry where
  label : String
  marked : String
  about : String

namespace Entry

/-- A label without marks. -/
def plain (label about : String) : Entry := ⟨label, label, about⟩

def command (name about : String) : Entry := ⟨name, Emphasis.literal.mark name, about⟩

def option (short? : Option Char) (long value about : String) : Entry :=
  let (short, markedShort) := match short? with
    | some c => (String.ofList ['-', c] ++ ", ", Emphasis.literal.mark (String.ofList ['-', c]) ++ ", ")
    | none => ("    ", "    ")
  ⟨short ++ long ++ value, markedShort ++ Emphasis.literal.mark long ++ value, about⟩

def spaces (n : Nat) : List Char := List.replicate n ' '

/-- The entry with its text in a column of its own; the further lines of the text
start there as well. -/
def line (width : Nat) (e : Entry) : String :=
  let about := e.about.toList.flatMap fun c => if c = '\n' then '\n' :: spaces (width + 4) else [c]
  "  " ++ e.marked ++ String.ofList (spaces (width - e.label.length + 2) ++ about)

end Entry

/-- A table under its heading. The widest label settles the columns. -/
def table (title : String) (entries : List Entry) : List String :=
  let width := (entries.map fun e => e.label.length).foldl max 0
  Emphasis.heading.mark (title ++ ":") :: entries.map (Entry.line width)

def usage (command arguments : String) : List String :=
  [Emphasis.heading.mark "Usage:" ++ " " ++ Emphasis.literal.mark command ++ " " ++ arguments]

/-- The options of a page; `config` is the value of the variable that names a
configuration file. -/
def options (config : String) (own : List Entry) : List String :=
  table "Options" ([.option (some 'C') "--config" " <CONFIG>"
      ("Use specific config file [env: TAGSEARCH_CONFIG=" ++ config ++ "]")]
    ++ own
    ++ [.option (some 'h') "--help" "" "Print help",
      .option (some 'V') "--version" "" "Print version"])

def outputOption : Entry :=
  .option (some 'o') "--output" " <OUTPUT>"
    "Output format [default: text] [possible values: text, json]"

def Page.text (config : String) : Page → String
  | level .program => paragraphs
    [["Structured search-query parser and wildcard matcher for tag-based catalogs"],
     usage "tagsearch" "[OPTIONS] [COMMAND]",
     table "Commands"
      [.command "parse" "Split search queries into structured components",
       .command "match" "Print the haystacks a wildcard pattern matches",
       .command "escape-like" "Escape values for a SQL LIKE pattern",
       .command "help" "Print this message or the help of the given subcommand(s)"],
     options config []]
  | level .parse => paragraphs
    [["Split search queries into structured components"],
     usage "tagsearch parse" "[OPTIONS] [QUERY]...",
     table "Arguments"
      [.plain "[QUERY]..." "Queries to parse (reads one per line from stdin when omitted)"],
     options config [outputOption]]
  | level .find => paragraphs
    [["Print the haystacks a wildcard pattern matches"],
     usage "tagsearch match" "[OPTIONS] <PATTERN> [HAYSTACK]...",
     table "Arguments"
      [.plain "<PATTERN>" "Pattern; `$*` matches any run of characters, `$?` exactly one",
       .plain "[HAYSTACK]..."
        "Candidates to test (reads one per line from stdin when omitted)"],
     options config
      [.option (some 'i') "--ignore-case" "" "Compare case-insensitively (overrides config)",
       .option (some 's') "--case-sensitive" "" "Compare case-sensitively",
       .option none "--wildcard" "" "Honor `$*` and `$?` (overrides config)",
       .option none "--no-wildcard" "" "Treat `$*` and `$?` literally",
       outputOption]]
  | level .escape => paragraphs
    [["Escape values for a SQL LIKE pattern"],
     usage "tagsearch escape-like" "[OPTIONS] <VALUE>...",
     table "Arguments" [.plain "<VALUE>..." "Values to escape"],
     options config []]
  | help => paragraphs
    [["Print this message or the help of the given subcommand(s)"],
     usage "tagsearch help" "[COMMAND]...",
     table "Arguments" [.plain "[COMMAND]..." "Print help for the subcommand(s)"]]

end TagQuery
