import TagQuery.Pattern.Matcher

/-!
What an invocation asks for, and the words that ask for it.
-/

namespace TagQuery

inductive Format where
  | text
  | json
  deriving DecidableEq, Repr

def Format.ofName? : String → Option Format
  | "text" => some .text
  | "json" => some .json
  | _ => none

/-- The arguments of a match: the four flags as they were given, each pair with
at most one of them set. -/
structure MatchArguments where
  pattern : String
  haystacks : List String
  ignoreCase : Bool
  caseSensitive : Bool
  wildcard : Bool
  noWildcard : Bool
  format : Format
  deriving DecidableEq, Repr

/-- A pair of flags decides, or else the default does. -/
def pairOr (on off default : Bool) : Bool := if on then true else if off then false else default

def MatchArguments.options (a : MatchArguments) (defaults : MatchOptions) : MatchOptions where
  ignoreCase := pairOr a.ignoreCase a.caseSensitive defaults.ignoreCase
  wildcards := pairOr a.wildcard a.noWildcard defaults.wildcards

inductive Request where
  | parse (queries : List String) (format : Format)
  | find (a : MatchArguments)
  | escape (values : List String)
  deriving DecidableEq, Repr

/-- Without values of their own, two of the requests read lines. -/
def Request.readsInput : Request → Bool
  | parse queries _ => queries.isEmpty
  | find a => a.haystacks.isEmpty
  | escape _ => false

/-- Only matching looks for a configuration. -/
def Request.readsConfig : Request → Bool
  | find _ => true
  | _ => false

structure Invocation where
  config? : Option String
  request? : Option Request
  deriving DecidableEq, Repr

/-- The whole program, or one of its commands. -/
inductive Level where
  | program
  | parse
  | find
  | escape
  deriving DecidableEq, Repr

inductive Flag where
  | ignoreCase
  | caseSensitive
  | wildcard
  | noWildcard
  | help
  | version
  deriving DecidableEq, Repr

/-- The options that take a value. -/
inductive Setting where
  | config
  | output
  deriving DecidableEq, Repr

inductive Switch where
  | flag (f : Flag)
  | setting (s : Setting)
  deriving DecidableEq, Repr

def Level.ofName? : String → Option Level
  | "parse" => some .parse
  | "match" => some .find
  | "escape-like" => some .escape
  | _ => none

def Level.ofLong? : Level → String → Option Switch
  | _, "config" => some (.setting .config)
  | _, "help" => some (.flag .help)
  | _, "version" => some (.flag .version)
  | .parse, "output" | .find, "output" => some (.setting .output)
  | .find, "ignore-case" => some (.flag .ignoreCase)
  | .find, "case-sensitive" => some (.flag .caseSensitive)
  | .find, "wildcard" => some (.flag .wildcard)
  | .find, "no-wildcard" => some (.flag .noWildcard)
  | _, _ => none

def Level.ofShort? : Level → Char → Option Switch
  | _, 'C' => some (.setting .config)
  | _, 'h' => some (.flag .help)
  | _, 'V' => some (.flag .version)
  | .parse, 'o' | .find, 'o' => some (.setting .output)
  | .find, 'i' => some (.flag .ignoreCase)
  | .find, 's' => some (.flag .caseSensitive)
  | _, _ => none

/-- The flag that a flag takes back. -/
def Flag.opposite? : Flag → Option Flag
  | ignoreCase => some caseSensitive
  | caseSensitive => some ignoreCase
  | wildcard => some noWildcard
  | noWildcard => some wildcard
  | help => none
  | version => none

def Flag.usage : Flag → String
  | ignoreCase => "--ignore-case"
  | caseSensitive => "--case-sensitive"
  | wildcard => "--wildcard"
  | noWildcard => "--no-wildcard"
  | help => "--help"
  | version => "--version"

def Setting.usage : Setting → String
  | config => "--config <CONFIG>"
  | output => "--output <OUTPUT>"

end TagQuery
