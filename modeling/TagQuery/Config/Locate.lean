import TagQuery.Config.Basic
import TagQuery.Files.Basic
import TagQuery.Files.Path

/-!
Where the configuration comes from: from the file that the user names, or else
from the nearest directory that has one, from the working directory upwards and
no further than the first directory with a `.git` entry, or else from nowhere.
-/

namespace TagQuery.Config

inductive Source where
  | named (path : String)
  | found (path : String) (levels : Nat)
  | defaults
  deriving DecidableEq, Repr

namespace Source

def path? : Source → Option String
  | named p => some p
  | found p _ => some p
  | defaults => none

def text : Source → String
  | named p => p ++ " (explicit)"
  | found p 0 => p ++ " (working directory)"
  | found p levels => p ++ " (" ++ toString levels ++ " levels up)"
  | defaults => "built-in defaults"

end Source

def fileName : String := "tagsearch.toml"

def boundaryName : String := ".git"

/-- Looks through directories, of which the first is `levels` above the working
directory. -/
def search (files : Files) (levels : Nat) : List String → Source
  | [] => .defaults
  | directory :: rest =>
    let candidate := Path.join directory fileName
    if files.isFile candidate then .found candidate levels
    else if files.leads (Path.join directory boundaryName) then .defaults
    else search files (levels + 1) rest

/-- The paths that looking for a configuration may ask about. -/
def candidates (named? : Option String) (cwd : String) : List String :=
  match named? with
  | some path => [path]
  | none => (Path.ancestors cwd).flatMap fun directory =>
    [Path.join directory fileName, Path.join directory boundaryName]

def locate (files : Files) (named? : Option String) (cwd : String) : Except Failure Source :=
  match named? with
  | some path =>
    if files.isFile path then .ok (.named path)
    else .error (.config ("config file not found: " ++ path) (some path))
  | none => .ok (search files 0 (Path.ancestors cwd))

/-- The file at a path as a configuration, with the warnings about it. A file that
cannot be read has no keys to warn of. -/
def load (files : Files) (path : String) : List Notice × Except Failure Config :=
  match files.text path with
  | .error e => ([], .error (.io path e.message))
  | .ok document =>
    let r := parse document
    (r.notices path, r.answer path)

/-- The configuration of a source. -/
def ofSource (files : Files) (source : Source) : List Notice × Except Failure Config :=
  match source.path? with
  | none => ([], .ok {})
  | some path => load files path

/-- The configuration that applies in a working directory, and where it is from. -/
def resolve (files : Files) (named? : Option String) (cwd : String) :
    List Notice × Except Failure (Config × Source) :=
  match locate files named? cwd with
  | .error e => ([], .error e)
  | .ok source =>
    let (notices, config?) := ofSource files source
    (notices, config?.map fun config => (config, source))

end TagQuery.Config
