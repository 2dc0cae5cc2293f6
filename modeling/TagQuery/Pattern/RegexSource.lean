import TagQuery.Pattern.Token

/-!
A wildcard pattern written as a regular expression: a class of all but the line
breaks for the wildcards, and a backslash before each plain character that has a
meaning in regular expressions.
-/

namespace TagQuery.Token

def regexSpecials : List Char :=
  ['\\', '.', '^', '$', '*', '?', '\x7b', '\x7d', '(', ')', '[', ']', '|', '+']

/-- The class of the characters inside a line. -/
def anyClass : List Char := "[^\\n\\r\\x\x7b85\x7d\\x\x7b2028\x7d\\x\x7b2029\x7d]".toList

def regex : Token → List Char
  | char c => if regexSpecials.contains c then ['\\', c] else [c]
  | one => anyClass
  | run => anyClass ++ ['*']

end TagQuery.Token

namespace TagQuery

def regexSource (pattern : List Char) : List Char := (Token.read pattern).flatMap Token.regex

end TagQuery
