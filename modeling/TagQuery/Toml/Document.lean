import TagQuery.Toml.Numbers
import TagQuery.Toml.Table

/-!
Reading a whole document. All faults count alike, so a reader gives nothing at
the first of them. Two limits of the format bound the recursion: keys have fewer
than eighty parts, and brackets and braces nest fewer than eighty deep.
-/

namespace TagQuery.Toml

/-- A reader takes characters from the front of a text and leaves the rest. -/
abbrev Reader := StateT Chars Option

def depthLimit : Nat := 79

def peek : Reader (Option Char) := do return (← get).head?

def skip (c : Char) : Reader Unit := do set (← (readChar c (← get) : Option Chars))

def skipSpaces : Reader Unit := modify (List.dropWhile isSpace)

/-- Up to the end of the line. -/
def skipComment : Reader Unit := modify (List.dropWhile isPlain)

/-- Takes one line break; the end of the document does as well if `orEnd` holds. -/
def skipBreak (orEnd : Bool) : Reader Unit := do
  match ← get with
  | '\n' :: rest => set rest
  | '\r' :: '\n' :: rest => set rest
  | [] => if orEnd then return else failure
  | _ => failure

/-- The rest of a line after a value or a header. -/
def skipLineEnd : Reader Unit := do
  skipSpaces
  if (← peek) = some '#' then skipComment
  skipBreak true

/-- Blanks, line breaks and comments between the items of an array. -/
def dropLines (inComment : Bool) : Chars → Option Chars
  | [] => if inComment then none else some []
  | '\n' :: rest => dropLines false rest
  | '\r' :: '\n' :: rest => dropLines false rest
  | c :: rest =>
    if inComment then if isPlain c then dropLines true rest else none
    else if isSpace c then dropLines false rest
    else if c = '#' then dropLines true rest
    else if c = '\r' then none
    else some (c :: rest)

def skipLines : Reader Unit := do set (← (dropLines false (← get) : Option Chars))

/-- Runs a reader and tells which stretch it took. -/
def spanned {α : Type} (r : Reader α) : Reader (α × Span) := do
  let before ← get
  let x ← r
  return (x, ⟨before, ← get⟩)

def readKey : Reader Key := do
  let (name, span) ← spanned (readName : Reader Chars)
  return ⟨String.ofList name, span⟩

/-- Keys joined by dots: the path and the last one. -/
def readPath : Nat → Reader (List Key × Key)
  | 0 => failure
  | fuel + 1 => do
    skipSpaces
    let k ← readKey
    skipSpaces
    if (← peek) = some '.' then
      skip '.'
      let (path, last) ← readPath fuel
      return (k :: path, last)
    else return ([], k)

/-- The items of an array, at most as many as the fuel, onto those in `out`. -/
def readItems (item : Reader Node) (out : List Node) : Nat → Reader (List Node)
  | 0 => failure
  | fuel + 1 => do
    skipLines
    if (← peek) = some ']' then
      skip ']'
      return out.reverse
    let x ← item
    skipLines
    if (← peek) = some ',' then
      skip ','
      readItems item (x :: out) fuel
    else
      skip ']'
      return (x :: out).reverse

def readPair (value : Reader Node) : Reader Pair := do
  let (path, key) ← readPath depthLimit
  skip '='
  skipSpaces
  return ⟨path, key, ← value⟩

/-- The pairs of a table in braces, all on one line and without a comma at the
end. -/
def readPairs (value : Reader Node) (out : List Pair) : Nat → Reader (List Pair)
  | 0 => failure
  | fuel + 1 => do
    let p ← readPair value
    skipSpaces
    if (← peek) = some ',' then
      skip ','
      readPairs value (p :: out) fuel
    else return (p :: out).reverse

def readBraces (value : Reader Node) (size : Nat) : Reader Entries := do
  skip '\x7b'
  skipSpaces
  if (← peek) = some '\x7d' then
    skip '\x7d'
    return []
  let ps ← readPairs value [] size
  skip '\x7d'
  (Entries.addAll .braces [] ps : Option Entries)

def readWord (word : Chars) (x : Scalar) : Reader Scalar := do
  for c in word do skip c
  return x

/-- A value that is neither an array nor a table. -/
def readScalar : Reader Scalar := do
  match ← peek with
  | some '"' | some '\'' => return .string (String.ofList (← (readString : Reader Chars)))
  | some 't' => readWord ['t', 'r', 'u', 'e'] (.boolean true)
  | some 'f' => readWord ['f', 'a', 'l', 's', 'e'] (.boolean false)
  | some _ => (readQuantity : Reader Scalar)
  | none => failure

/-- A value that may hold brackets and braces to the given depth, and in each of
them at most `size` items. -/
def readValue (size : Nat) : Nat → Reader Node
  | 0 => readLeaf
  | depth + 1 => do
    match ← peek with
    | some '[' =>
      let (items, span) ← spanned do
        skip '['
        readItems (readValue size depth) [] size
      return .array items span
    | some '\x7b' =>
      let (es, span) ← spanned (readBraces (readValue size depth) size)
      return .table .braces (some span) es
    | _ => readLeaf
where
  readLeaf : Reader Node := do
    let (x, span) ← spanned readScalar
    return .scalar x span

/-- A header line. Between the brackets of a double one stands nothing. -/
def readHeader : Reader Section := do
  let isBlock := (← get).take 2 = ['[', '[']
  let ((path, key), span) ← spanned do
    skip '['
    if isBlock then skip '['
    let keys ← readPath depthLimit
    skip ']'
    if isBlock then skip ']'
    return keys
  skipLineEnd
  return ⟨path, key, isBlock, span, []⟩

inductive Line where
  | blank
  | header (s : Section)
  | pair (p : Pair)

def readLine (size : Nat) : Reader Line := do
  match ← peek with
  | some '#' => do skipLineEnd; return .blank
  | some '[' => return .header (← readHeader)
  | some '\n' => do skipBreak false; return .blank
  | some '\r' => do skipBreak false; return .blank
  | _ => do
    let p ← readPair (readValue size depthLimit)
    skipLineEnd
    return .pair p

/-- Reads lines to the end of the document, onto those in `out`, newest first. -/
def readLines (size : Nat) (out : List Line) : Nat → Reader (List Line)
  | 0 => failure
  | fuel + 1 => do
    skipSpaces
    if (← get).isEmpty then return out
    match ← readLine size with
    | .blank => readLines size out fuel
    | line => readLines size (line :: out) fuel

/-- The pairs above the first header and the sections, from lines newest first. -/
def sectionsOf (lines : List Line) : List Pair × List Section :=
  lines.foldl (fun (pairs, sections) line =>
    match line with
    | .blank => (pairs, sections)
    | .pair p => (p :: pairs, sections)
    | .header s => ([], { s with pairs } :: sections)) ([], [])

/-- A byte order mark may stand at the start of a document. -/
def dropByteOrderMark : Chars → Chars
  | '\ufeff' :: cs => cs
  | cs => cs

/-- The entries of a document, if it is well formed. -/
def read (document : String) : Option Entries := do
  let cs := dropByteOrderMark document.toList
  let size := cs.length + 1
  let (lines, _) ← readLines size [] size cs
  let (top, sections) := sectionsOf lines
  assemble top sections

end TagQuery.Toml
