import TagQuery.Text.CodePoint

/-!
Strings and bare keys of a document. Each reader takes the characters after the
opening quotes and gives the string with what follows the closing ones, or
nothing if the string is malformed.
-/

namespace TagQuery.Toml

abbrev Chars := List Char

def isSpace (c : Char) : Bool := c = ' ' || c = '\t'

/-- Tabs and all characters that are not control characters may stand in strings
and comments; some readers take out a few more. -/
def isPlain (c : Char) : Bool := c = '\t' || (' ' ≤ c && c ≠ '\x7f')

def escapeValue : Char → Option Char
  | 'b' => some '\x08'
  | 'f' => some '\x0c'
  | 'n' => some '\n'
  | 'r' => some '\r'
  | 't' => some '\t'
  | '"' => some '"'
  | '\\' => some '\\'
  | _ => none

def readBasic (out : Chars) : Chars → Option (Chars × Chars)
  | '"' :: rest => some (out.reverse, rest)
  | '\\' :: 'u' :: a :: b :: c :: d :: rest => do
    readBasic ((← Text.codePoint [a, b, c, d]) :: out) rest
  | '\\' :: 'U' :: a :: b :: c :: d :: e :: f :: g :: h :: rest => do
    readBasic ((← Text.codePoint [a, b, c, d, e, f, g, h]) :: out) rest
  | '\\' :: e :: rest => do readBasic ((← escapeValue e) :: out) rest
  | c :: rest => if isPlain c then readBasic (c :: out) rest else none
  | [] => none

def readLiteral (out : Chars) : Chars → Option (Chars × Chars)
  | '\'' :: rest => some (out.reverse, rest)
  | c :: rest => if isPlain c then readLiteral (c :: out) rest else none
  | [] => none

def startsLine : Chars → Bool
  | '\n' :: _ => true
  | '\r' :: '\n' :: _ => true
  | _ => false

/-- A string over several lines. Up to two quotes may stand before the closing
three. A backslash at the end of a line drops the line break and all blanks
after it; `trim` is set while they are dropped. -/
def readLongBasic (trim : Bool) (out : Chars) : Chars → Option (Chars × Chars)
  | '"' :: '"' :: '"' :: '"' :: '"' :: rest => some (('"' :: '"' :: out).reverse, rest)
  | '"' :: '"' :: '"' :: '"' :: rest => some (('"' :: out).reverse, rest)
  | '"' :: '"' :: '"' :: rest => some (out.reverse, rest)
  | '\\' :: 'u' :: a :: b :: c :: d :: rest => do
    readLongBasic false ((← Text.codePoint [a, b, c, d]) :: out) rest
  | '\\' :: 'U' :: a :: b :: c :: d :: e :: f :: g :: h :: rest => do
    readLongBasic false ((← Text.codePoint [a, b, c, d, e, f, g, h]) :: out) rest
  | '\\' :: e :: rest =>
    if startsLine ((e :: rest).dropWhile isSpace) then readLongBasic true out (e :: rest)
    else do readLongBasic false ((← escapeValue e) :: out) rest
  | '\r' :: '\n' :: rest => readLongBasic trim (if trim then out else '\n' :: out) rest
  | c :: rest =>
    if trim && (isSpace c || c = '\n') then readLongBasic true out rest
    else if isPlain c || c = '\n' then readLongBasic false (c :: out) rest
    else none
  | [] => none

def readLongLiteral (out : Chars) : Chars → Option (Chars × Chars)
  | '\'' :: '\'' :: '\'' :: '\'' :: '\'' :: rest => some (('\'' :: '\'' :: out).reverse, rest)
  | '\'' :: '\'' :: '\'' :: '\'' :: rest => some (('\'' :: out).reverse, rest)
  | '\'' :: '\'' :: '\'' :: rest => some (out.reverse, rest)
  | '\r' :: '\n' :: rest => readLongLiteral ('\n' :: out) rest
  | c :: rest =>
    if isPlain c || c = '\n' then readLongLiteral (c :: out) rest else none
  | [] => none

/-- A line break right after the opening quotes is dropped. -/
def dropFirstBreak : Chars → Chars
  | '\n' :: rest => rest
  | '\r' :: '\n' :: rest => rest
  | cs => cs

/-- A string value with its quotes. -/
def readString : Chars → Option (Chars × Chars)
  | '"' :: '"' :: '"' :: rest => readLongBasic false [] (dropFirstBreak rest)
  | '"' :: rest => readBasic [] rest
  | '\'' :: '\'' :: '\'' :: rest => readLongLiteral [] (dropFirstBreak rest)
  | '\'' :: rest => readLiteral [] rest
  | _ => none

def isBareKey (c : Char) : Bool := c.isAlphanum || c = '_' || c = '-'

/-- The name of a key; strings over several lines are none. -/
def readName : Chars → Option (Chars × Chars)
  | '"' :: rest => readBasic [] rest
  | '\'' :: rest => readLiteral [] rest
  | cs =>
    let name := cs.takeWhile isBareKey
    if name.isEmpty then none else some (name, cs.dropWhile isBareKey)

end TagQuery.Toml
