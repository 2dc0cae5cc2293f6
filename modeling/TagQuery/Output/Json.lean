import TagQuery.Text.Quoted

/-!
JSON values and their indented text: two spaces a level, an item a line, and
nothing between the brackets of an empty list or object.
-/

namespace TagQuery

inductive Json where
  | text (s : String)
  | bool (b : Bool)
  | list (items : List Json)
  | record (fields : List (String × Json))
  deriving Inhabited

namespace Json

def escapeChar (c : Char) : List Char :=
  if c = '"' || c = '\\' then ['\\', c]
  else if c = '\x08' then ['\\', 'b']
  else if c = '\x0c' then ['\\', 'f']
  else if c = '\n' then ['\\', 'n']
  else if c = '\r' then ['\\', 'r']
  else if c = '\t' then ['\\', 't']
  else if c < ' ' then
    ['\\', 'u', '0', '0', (c.toNat / 16).digitChar, (c.toNat % 16).digitChar]
  else [c]

def writeText (s : String) : List Char := '"' :: s.toList.flatMap escapeChar ++ ['"']

def newLine (depth : Nat) : List Char := '\n' :: List.replicate (2 * depth) ' '

mutual

/-- The text of a value that starts at indentation `depth`. -/
def write (depth : Nat) : Json → List Char
  | text s => writeText s
  | bool b => (if b then "true" else "false").toList
  | list [] => ['[', ']']
  | list (x :: xs) =>
    '[' :: newLine (depth + 1) ++ write (depth + 1) x ++ writeItems depth xs
  | record [] => ['\x7b', '\x7d']
  | record ((k, x) :: fields) =>
    '\x7b' :: newLine (depth + 1) ++ writeText k ++ [':', ' '] ++ write (depth + 1) x
      ++ writeFields depth fields

def writeItems (depth : Nat) : List Json → List Char
  | [] => newLine depth ++ [']']
  | x :: xs => ',' :: newLine (depth + 1) ++ write (depth + 1) x ++ writeItems depth xs

def writeFields (depth : Nat) : List (String × Json) → List Char
  | [] => newLine depth ++ ['\x7d']
  | (k, x) :: fields =>
    ',' :: newLine (depth + 1) ++ writeText k ++ [':', ' '] ++ write (depth + 1) x
      ++ writeFields depth fields

end

/-- A value as a document, with a newline at its end. -/
def document (v : Json) : String := String.ofList (v.write 0 ++ ['\n'])

end Json

end TagQuery
