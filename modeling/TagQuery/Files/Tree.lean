import TagQuery.Files.Basic
import TagQuery.Files.Path

/-!
A tree of files, and the answers that it gives to questions about paths. A link
counts as what it leads to; one that leads nowhere counts as nothing.
-/

namespace TagQuery

inductive FileTree where
  | file (content : List UInt8)
  | directory (entries : List (String × FileTree))
  /-- A symbolic link. -/
  | link (target : String)

namespace FileTree

def empty : FileTree := directory []

/-- Puts a node at the end of a path; the directories on the way are made. An
existing directory stays as it is when a directory is put there. -/
def put (node : FileTree) : List String → FileTree → FileTree
  | [], old =>
    match node, old with
    | directory [], directory es => directory es
    | _, _ => node
  | name :: path, old =>
    let es := match old with
      | directory es => es
      | file _ | link _ => []
    match es.lookup name with
    | none => directory (es ++ [(name, put node path empty)])
    | some inner =>
      let inner' := put node path inner
      directory (es.map fun (n, t) => if n = name then (n, inner') else (n, t))

/-- The greatest size of a name in a directory, in bytes. -/
def nameLimit : Nat := 255

/-- The greatest number of links that are followed for one path. -/
def linkLimit : Nat := 40

/-- Where a path has got to: at a node, below the directories that were entered on
the way, nearest first, which are kept for going back up. -/
structure Place where
  above : List FileTree
  here : FileTree
  /-- How many links may still be followed. -/
  links : Nat

def partsOf (path : String) : List String := (Path.parts path.toList).map String.ofList

/-- Follows the parts of a path up to the first link. From there `jump` goes on, from
the place of the link or, if its target is rooted, from the root, with the parts of
the target before those that are left. -/
def walk (jump : List FileTree → FileTree → List String → Except ReadFault Place) (links : Nat)
    (above : List FileTree) (here : FileTree) : List String → Except ReadFault Place
  | [] => .ok ⟨above, here, links⟩
  | name :: path =>
    match here with
    | file _ | link _ => .error .notDirectory
    | directory es =>
      if name = "" || name = "." then walk jump links above here path
      else if name = ".." then
        match above with
        | [] => walk jump links [] here path
        | up :: rest => walk jump links rest up path
      else if nameLimit < name.utf8ByteSize then .error .nameTooLong
      else
        match es.lookup name with
        | none => .error .missing
        | some (link target) =>
          if Path.isRooted target.toList then
            jump [] (above.getLast?.getD here) (partsOf target ++ path)
          else jump above here (partsOf target ++ path)
        | some inner => walk jump links (here :: above) inner path

/-- Follows the parts of a path, and at most `links` links on the way. -/
def follow : Nat → List FileTree → FileTree → List String → Except ReadFault Place
  | 0 => walk (fun _ _ _ => .error .tooManyLinks) 0
  | links + 1 => walk (follow links) (links + 1)

/-- What a path leads to from a working directory. -/
def find (root : FileTree) (cwd path : String) : Except ReadFault FileTree :=
  if path = "" then .error .missing
  else if let some fault := Path.fault? path then .error fault
  else (follow linkLimit [] root (partsOf (Path.join cwd path))).map Place.here

def files (root : FileTree) (cwd : String) : Files where
  isFile path :=
    match root.find cwd path with
    | .ok (file _) => true
    | _ => false
  leads path := (root.find cwd path).isOk
  bytes path := do
    match ← root.find cwd path with
    | file content => return content
    | directory _ | link _ => throw .isDirectory

end FileTree

end TagQuery
