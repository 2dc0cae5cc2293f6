import TagQuery.Decimal.Shortest
import TagQuery.Failure
import TagQuery.Log.Notice
import TagQuery.Text.Quoted
import TagQuery.Toml.Dates
import TagQuery.Toml.Document
import TagQuery.Toml.Excerpt

/-!
The configuration file: a version, which has to be 1, and a table of defaults for
matching. Other keys are let through with a warning.
-/

namespace TagQuery

structure Config where
  version : Int := 1
  matching : MatchOptions := {}
  deriving DecidableEq, Repr

inductive ConfigFault where
  | malformed
  | versionType (found : String) (excerpt : String)
  | dateType (found : String) (excerpt : String)
  | missingVersion
  | unsupportedVersion (n : Int)
  | matchNotTable
  | notBoolean (key : String)
  deriving DecidableEq, Repr

namespace ConfigFault

def message : ConfigFault → String
  | malformed => "TOML parse error"
  | versionType found excerpt => excerpt ++ "invalid type: " ++ found ++ ", expected i64\n"
  | dateType found excerpt =>
    excerpt ++ "invalid type: " ++ found ++ ", expected string containing a datetime\n"
  | missingVersion => "missing required field: version"
  | unsupportedVersion n => "unsupported config version " ++ toString n ++ " (supported: 1)"
  | matchNotTable => "[match] must be a table"
  | notBoolean key => "match." ++ key ++ " must be a boolean"

end ConfigFault

namespace Config

open Toml (Node Entries Span Key)

/-- What a value is called when another kind of value was expected. -/
def kindOf : Node → String
  | .scalar (.string s) _ => "string " ++ Text.quoted s
  | .scalar (.integer n) _ => "integer `" ++ toString n ++ "`"
  | .scalar (.float x) _ => "floating point `" ++ x.text ++ "`"
  | .scalar (.boolean b) _ => "boolean `" ++ (if b then "true" else "false") ++ "`"
  | .scalar .moment _ => "map"
  | .array _ _ => "sequence"
  | .table _ _ _ => "map"
  | .tables _ => "sequence"

/-- The version. A value that is written nowhere is shown by its key. -/
def readVersion (document : List Char) (es : Entries) : Except ConfigFault Int :=
  match es.find? "version" with
  | none => .error .missingVersion
  | some (_, .scalar (.integer n) _) =>
    if n = 1 then .ok n else .error (.unsupportedVersion n)
  | some (k, x) =>
    .error (.versionType (kindOf x) (Toml.excerpt document (x.span?.getD k.span)))

/-- A boolean entry, or its default where it is absent. -/
def readBoolean (es : Entries) (key : String) (default : Bool) : Except ConfigFault Bool :=
  match es.find? key with
  | none => .ok default
  | some (_, .scalar (.boolean b) _) => .ok b
  | some _ => .error (.notBoolean key)

def readOptions (es : Entries) : Except ConfigFault MatchOptions := do
  let ignoreCase ← readBoolean es "ignore_case" true
  let wildcards ← readBoolean es "wildcard" true
  return { ignoreCase, wildcards }

/-- The keys of a table other than those expected, in the order of code points. -/
def unknownKeys (expected : List String) (es : Entries) : List String :=
  (es.keys.filter fun k => !expected.contains k).mergeSort fun a b => !(b < a)

/-- A configuration, or why there is none, with the unknown keys that were met. -/
structure Reading where
  unknown : List String
  result : Except ConfigFault Config

/-- A fault of a date that is blamed on the value itself. -/
def dateFaultAt (document : List Char) : Toml.DateFault → ConfigFault
  | .malformed => .malformed
  | .notString k x => .dateType (kindOf x) (Toml.excerpt document (x.span?.getD k.span))

/-- A fault of a date that is blamed on the whole document. -/
def dateFaultWithin (document : List Char) : Toml.DateFault → ConfigFault
  | .malformed => .malformed
  | .notString _ x => .dateType (kindOf x) (Toml.excerpt document ⟨document, []⟩)

/-- Checks the tables that stand for dates: first those in the table for matching,
then all others, in which the date has to stand alone. -/
def checkDates (document : List Char) (es : Entries) : Except ConfigFault Unit := do
  if let some (_, x) := es.find? "match" then
    (x.checkDates false).mapError (dateFaultAt document)
  let others := es.filter fun e => e.1.name ≠ "version" && e.1.name ≠ "match"
  (Toml.checkValues true others).mapError (dateFaultWithin document)

/-- The table for matching. One that stands for a date is none. -/
def asTable? : Node → Option Entries
  | .table _ _ es => if Toml.Entries.isDate es then none else some es
  | _ => none

/-- Reads the entries of a document; the document itself is only shown in
messages. -/
def ofEntries (document : List Char) (es : Entries) : Reading :=
  match readVersion document es, checkDates document es with
  | .error e, _ => ⟨[], .error e⟩
  | .ok _, .error e => ⟨[], .error e⟩
  | .ok version, .ok _ =>
    let unknown := unknownKeys ["version", "match"] es
    match es.find? "match" with
    | none => ⟨unknown, .ok { version }⟩
    | some (_, x) =>
      match asTable? x with
      | none => ⟨unknown, .error .matchNotTable⟩
      | some inner =>
        let unknownInner := unknownKeys ["ignore_case", "wildcard"] inner
        ⟨unknown ++ unknownInner.map ("match." ++ ·),
          (readOptions inner).map fun matching => { version, matching }⟩

def parse (document : String) : Reading :=
  match Toml.read document with
  | none => ⟨[], .error .malformed⟩
  | some es => ofEntries document.toList es

/-- The warning about a key of the file at `path` that is not known. -/
def unknownKeyNotices (path key : String) : List Notice :=
  [.debug configSource ("ignoring unknown config key " ++ key),
    .line ("tagsearch: warning: " ++ path ++ ": unrecognized field `" ++ key ++ "` (ignored)")]

namespace Reading

/-- The warnings about the file at `path`. -/
def notices (path : String) (r : Reading) : List Notice :=
  r.unknown.flatMap (unknownKeyNotices path)

/-- A reading as the answer about the file at `path`. -/
def answer (path : String) (r : Reading) : Except Failure Config :=
  r.result.mapError fun e => .config e.message (some path)

end Reading

end Config

end TagQuery
