import TagQuery.Files.Basic

/-!
Paths as texts. A path names its parts between slashes; empty parts and single
dots name nothing, but for a dot that starts a relative path.
-/

namespace TagQuery.Path

abbrev Chars := List Char

def parts (path : Chars) : List Chars := path.splitOn '/'

def isRooted (path : Chars) : Bool := path.head? = some '/'

/-- Does a part name nothing, with `before` parts before it? -/
def isFiller (rooted : Bool) (part : Chars) (before : List Chars) : Bool :=
  part = [] || (part = ['.'] && (rooted || !before.isEmpty))

/-- Drops the parts at the end that name nothing; the last part comes first. -/
def trim (rooted : Bool) : List Chars → List Chars
  | [] => []
  | p :: before => if isFiller rooted p before then trim rooted before else p :: before

/-- The directories above the one that the parts name, nearest first. -/
def above (rooted : Bool) : List Chars → List (List Chars)
  | [] => []
  | p :: before =>
    if isFiller rooted p before then above rooted before
    else trim rooted before :: above rooted before

def ofParts (rooted : Bool) (parts : List Chars) : String :=
  String.ofList ((if rooted then ['/'] else []) ++ List.intercalate ['/'] parts.reverse)

/-- A directory and all directories above it, nearest first. -/
def ancestors (path : String) : List String :=
  let rooted := isRooted path.toList
  let ps := parts path.toList
  path :: (above rooted (if rooted then ps.tail else ps).reverse).map (ofParts rooted)

/-- A path as seen from a directory; a rooted one is seen the same from anywhere. -/
def join (directory path : String) : String :=
  if isRooted path.toList || directory = "" then path
  else if directory.toList.getLast? = some '/' then directory ++ path
  else directory ++ "/" ++ path

/-- The greatest size of a path, in bytes. -/
def sizeLimit : Nat := 4095

/-- Why a path is refused before it is followed. -/
def fault? (path : String) : Option ReadFault :=
  if path.toList.contains '\x00' then some .nulInName
  else if sizeLimit < path.utf8ByteSize then some .nameTooLong
  else none

end TagQuery.Path
