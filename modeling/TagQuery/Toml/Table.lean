import TagQuery.Toml.Node

/-!
Putting entries into tables. A path is followed from the outside in, and the
tables that are missing on it are made; what may be entered and how a new table
counts depends on where the path stands.
-/

namespace TagQuery.Toml

/-- Where a path stands: in a header, before the equals sign of a line, or before
one inside braces. -/
inductive Place where
  | header
  | line
  | braces
  deriving DecidableEq, Repr

/-- How the tables count that a path makes. -/
def Place.makes : Place → Origin
  | header => .implied
  | line => .dotted
  | braces => .dottedInBraces

/-- May a path enter a table of this origin? A header may enter all but braces;
a line may not enter tables with a header of their own. -/
def Place.enters : Place → Origin → Bool
  | header, o => o ≠ .braces && o ≠ .dottedInBraces
  | line, o => o = .implied || o = .dotted
  | braces, o => o = .dottedInBraces

/-- Changes the table at the end of a path. The change is told how that table was
made. Of a list of tables the last is entered. -/
def Entries.alter (place : Place) (change : Origin → Entries → Option Entries) :
    List Key → Origin → Entries → Option Entries
  | [], origin, es => change origin es
  | k :: path, _, es =>
    match es.find? k.name with
    | none => do
      let inner ← Entries.alter place change path place.makes []
      return es ++ [(k, .table place.makes none inner)]
    | some (_, .table origin span? inner) =>
      if place.enters origin then do
        let inner ← Entries.alter place change path origin inner
        return es.set k.name (.table origin span? inner)
      else none
    | some (_, .tables blocks) =>
      match blocks with
      | .table origin span? inner :: older =>
        if place = .braces then none else do
          let inner ← Entries.alter place change path origin inner
          return es.set k.name (.tables (.table origin span? inner :: older))
      | _ => none
    | some _ => none

/-- A line `path.key = value`. -/
structure Pair where
  path : List Key
  key : Key
  value : Node

/-- Adds a pair to a table. The key must be new, and behind a path the table must
be one that such paths make. -/
def Entries.add (place : Place) (es : Entries) (p : Pair) : Option Entries :=
  es.alter place (fun origin inner =>
    if !p.path.isEmpty && origin ≠ place.makes then none
    else if (inner.find? p.key.name).isSome then none
    else some (inner ++ [(p.key, p.value)])) p.path .header

def Entries.addAll (place : Place) (es : Entries) (ps : List Pair) : Option Entries :=
  ps.foldlM (Entries.add place) es

/-- A header with the pairs below it. A header in double brackets starts another
block of a list of tables. -/
structure Section where
  path : List Key
  key : Key
  isBlock : Bool
  span : Span
  pairs : List Pair

/-- The stretch of a section: its header, and all up to the last value in it. -/
def Section.extent (s : Section) : Span :=
  match s.pairs.getLast? with
  | none => s.span
  | some p => match p.value.span? with
    | some v => ⟨s.span.start, v.stop⟩
    | none => s.span

/-- Puts a section into the document. A table that so far was only implied may
still get its header, and then moves to the end of the table it stands in. -/
def Entries.addSection (es : Entries) (s : Section) : Option Entries :=
  es.alter .header (fun _ inner =>
    match inner.find? s.key.name with
    | none => do
      let table := Node.table .header s.extent (← Entries.addAll .line [] s.pairs)
      return inner ++ [(s.key, if s.isBlock then .tables [table] else table)]
    | some (_, .table .implied _ known) =>
      if s.isBlock then none else do
        let table := Node.table .header s.extent (← Entries.addAll .line known s.pairs)
        return inner.erase s.key.name ++ [(s.key, table)]
    | some (_, .tables blocks) =>
      if s.isBlock then do
        let table := Node.table .header s.extent (← Entries.addAll .line [] s.pairs)
        return inner.set s.key.name (.tables (table :: blocks))
      else none
    | some _ => none) s.path .header

/-- A document from the pairs above the first header and the sections. -/
def assemble (top : List Pair) (sections : List Section) : Option Entries := do
  let es ← Entries.addAll .line [] top
  sections.foldlM Entries.addSection es

end TagQuery.Toml
