import TagQuery.Pattern.Occurs
import TagQuery.Pattern.RegexSource
import TagQuery.Pattern.Search
import TagQuery.Text.Lowercase

/-!
Patterns made ready for matching. A pattern without wildcards, or with wildcards
switched off, is looked for byte by byte; any other is matched token by token.
Matching is never tied to the start or the end of a text. To ignore case, the
pattern and each text are lower-cased first. Which patterns are too large to be
matched token by token is left open: `ofWildcardFor`, `compileFor` and `matchOnceFor`
are told which are accepted, and where nothing is told an estimate decides.
-/

namespace TagQuery

structure MatchOptions where
  ignoreCase : Bool := true
  wildcards : Bool := true
  deriving DecidableEq, Repr

inductive PatternError where
  | tooLarge
  deriving DecidableEq, Repr

/-- The size that a compiled pattern may have, in bytes. -/
def sizeLimit : Nat := 10485760

/-- What a token takes of that size, as an estimate: a character by the bytes it is
written in. -/
def Token.size : Token → Nat
  | char c => 32 * c.utf8Size
  | one | run => 1400

def PatternError.message : PatternError → String
  | .tooLarge =>
    "invalid pattern: Compiled regex exceeds size limit of " ++ toString sizeLimit ++ " bytes."

def utf8Bytes (cs : List Char) : List UInt8 := cs.flatMap String.utf8EncodeChar

def foldCase (fold : Bool) (cs : List Char) : List Char := if fold then Text.lower cs else cs

inductive Matcher where
  | literal (needle : List UInt8) (fold : Bool)
  | wildcard (pattern : List Char) (fold : Bool)
  deriving DecidableEq, Repr

namespace Matcher

/-- Takes every character of the pattern as it is. -/
def ofLiteral (pattern : String) (fold : Bool) : Matcher :=
  literal (utf8Bytes (foldCase fold pattern.toList)) fold

/-- Takes the wildcards of the pattern as wildcards, if the folded pattern is accepted. -/
def ofWildcardFor (accepts : List Char → Bool) (pattern : String) (fold : Bool) :
    Except PatternError Matcher :=
  let folded := foldCase fold pattern.toList
  if accepts folded then .ok (wildcard folded fold) else .error .tooLarge

def compileFor (accepts : List Char → Bool) (pattern : String) (options : MatchOptions) :
    Except PatternError Matcher :=
  if options.wildcards && hasWildcard pattern then
    ofWildcardFor accepts pattern options.ignoreCase
  else .ok (ofLiteral pattern options.ignoreCase)

/-- Does a pattern keep within the limit, by the estimate? -/
def isWithinLimit (pattern : List Char) : Bool :=
  (Token.read pattern).foldl (fun n t => n + t.size) 0 ≤ sizeLimit

def ofWildcard (pattern : String) (fold : Bool) : Except PatternError Matcher :=
  ofWildcardFor isWithinLimit pattern fold

def compile (pattern : String) (options : MatchOptions) : Except PatternError Matcher :=
  compileFor isWithinLimit pattern options

def isMatch (m : Matcher) (text : String) : Bool :=
  match m with
  | literal needle fold => occursIn needle (utf8Bytes (foldCase fold text.toList))
  | wildcard pattern fold => Token.occur (Token.read pattern) (foldCase fold text.toList)

/-- Does a text match a pattern that is made ready for this text alone? -/
def matchOnceFor (accepts : List Char → Bool) (text pattern : String) (options : MatchOptions) :
    Except PatternError Bool :=
  (compileFor accepts pattern options).map fun m => m.isMatch text

def matchOnce (text pattern : String) (options : MatchOptions) : Except PatternError Bool :=
  matchOnceFor isWithinLimit text pattern options

/-- The regular expression that a token matcher stands for. -/
def regex? : Matcher → Option String
  | literal _ _ => none
  | wildcard pattern _ => some (String.ofList (regexSource pattern))

end Matcher

end TagQuery
