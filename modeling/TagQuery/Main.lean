import TagQuery.Run

/-!
The program: gathers what a run depends on, and prints what it comes to.
-/

namespace TagQuery

def variableNames : List String :=
  ["TAGSEARCH_CONFIG", "TAGSEARCH_LOG", "NO_COLOR", "COLOR", "CLICOLOR_FORCE"]

def readFault : IO.Error → ReadFault
  | .noFileOrDirectory .. => .missing
  | .inappropriateType _ 21 _ => .isDirectory
  | .inappropriateType _ 20 _ => .notDirectory
  | .invalidArgument _ 36 _ => .nameTooLong
  | .invalidArgument _ 40 _ => .tooManyLinks
  | e => .other (toString e)

def readPath (path : String) : IO (Except ReadFault (List UInt8)) := do
  if let some fault := Path.fault? path then return .error fault
  try
    let handle ← IO.FS.Handle.mk path .read
    return .ok (← handle.readBinToEnd).toList
  catch e => return .error (readFault e)

/-- The working directory, or why it cannot be told. -/
def workingDirectory : IO (Except ReadFault String) := do
  try return .ok (toString (← IO.currentDir))
  catch e => return .error (readFault e)

partial def readStream (input : IO.FS.Stream) (read : ByteArray) : IO ByteArray := do
  let chunk ← input.read 65536
  if chunk.isEmpty then return read else readStream input (read ++ chunk)

end TagQuery

open TagQuery

def main (args : List String) : IO UInt32 := do
  let environment ← variableNames.filterMapM fun name => do
    return (← IO.getEnv name).map (name, ·)
  let (cwd, cwdFault?) := match ← workingDirectory with
    | .ok cwd => (cwd, none)
    | .error fault => ("", some fault)
  let (named?, request?) :=
    match readArguments (environment.lookup "TAGSEARCH_CONFIG") args with
    | .ok ⟨named?, request?⟩ => (named?, request?)
    | .error _ => (none, none)
  let paths :=
    if request?.any Request.readsConfig then Config.candidates named? cwd else []
  let known ← paths.mapM fun path => do return (path, ← readPath path)
  let input ←
    if request?.any Request.readsInput then readStream (← IO.getStdin) ByteArray.empty
    else pure ByteArray.empty
  let outcome := run
    { args, input := input.toList, environment, files := Files.ofKnown known, cwd, cwdFault? }
  IO.print outcome.out
  IO.eprint outcome.err
  return outcome.code.toNat.toUInt32
