import TagQuery.Text.Lines

/-!
What the program may ask about files.
-/

namespace TagQuery

inductive ReadFault where
  | missing
  | isDirectory
  | notDirectory
  | notText
  | nameTooLong
  | nulInName
  | tooManyLinks
  | other (message : String)
  deriving DecidableEq, Repr

def ReadFault.message : ReadFault → String
  | missing => "No such file or directory (os error 2)"
  | isDirectory => "Is a directory (os error 21)"
  | notDirectory => "Not a directory (os error 20)"
  | notText => "stream did not contain valid UTF-8"
  | nameTooLong => "File name too long (os error 36)"
  | nulInName => "file name contained an unexpected NUL byte"
  | tooManyLinks => "Too many levels of symbolic links (os error 40)"
  | other m => m

/-- The state of the files while the program runs: which paths are regular files,
which lead to anything at all, and what reading one gives. -/
structure Files where
  isFile : String → Bool
  leads : String → Bool
  bytes : String → Except ReadFault (List UInt8)

/-- Files of which only some paths are known, each with what reading it gave; all
other paths lead nowhere. -/
def Files.ofKnown (known : List (String × Except ReadFault (List UInt8))) : Files where
  isFile path :=
    match known.lookup path with
    | some (.ok _) | some (.error (.other _)) => true
    | _ => false
  leads path :=
    match known.lookup path with
    | none | some (.error .missing) | some (.error .notDirectory) | some (.error .nameTooLong)
    | some (.error .nulInName) | some (.error .tooManyLinks) => false
    | _ => true
  bytes path := (known.lookup path).getD (.error .missing)

/-- The content of a file as a text. -/
def Files.text (files : Files) (path : String) : Except ReadFault String := do
  match Text.decodeUtf8 (← files.bytes path) with
  | some s => return s
  | none => throw .notText

end TagQuery
