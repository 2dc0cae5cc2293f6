import TagQuery.Output.Json
import TagQuery.Output.Style
import TagQuery.Pattern.Matcher
import TagQuery.Query.Rendering

/-!
What the commands print. A parsed query is shown as the query followed by one
indented line a component, or as a JSON record; matched texts are shown one a
line, or listed in a record with the options they were matched under.
-/

namespace TagQuery

/-- A query with its components. -/
structure ParsedQuery where
  query : String
  components : List Component
  deriving DecidableEq, Repr

/-- The texts that a pattern matched, and the options that were in force. -/
structure MatchReport where
  pattern : String
  options : MatchOptions
  matched : List String
  deriving DecidableEq, Repr

def Modifiers.toFields (m : Modifiers) : List (String × Json) :=
  [("excluded", .bool m.excluded), ("exact", .bool m.exact)]

def Term.toFields (t : Term) : List (String × Json) :=
  ("components", .list (t.pieces.map fun p =>
    .record [("type", .text "string"), ("value", .text p)])) :: t.modifiers.toFields

def Component.toJson : Component → Json
  | .term t => .record (("type", .text "text") :: t.toFields)
  | .filter f =>
    .record ([("type", .text "namespace"), ("namespace", .text f.name),
      ("tag", .record f.tag.toFields)] ++ f.modifiers.toFields)

def ParsedQuery.toJson (p : ParsedQuery) : Json :=
  .record [("query", .text p.query), ("components", .list (p.components.map Component.toJson))]

def MatchReport.toJson (r : MatchReport) : Json :=
  .record [("pattern", .text r.pattern), ("ignore_case", .bool r.options.ignoreCase),
    ("wildcard", .bool r.options.wildcards), ("matched", .list (r.matched.map Json.text))]

def lineOf (s : String) : String := s.push '\n'

/-- One text a line. -/
def linesText (texts : List String) : String := String.join (texts.map lineOf)

/-- The line of a component under its query. -/
def Rendering.line (color : Bool) (r : Rendering) : List Char :=
  [' ', ' '] ++ (if r.excluded then Style.excluded.paint color ['-'] else [])
    ++ (if r.exact then Style.exact.paint color ['$'] else [])
    ++ (match r.name? with
      | some name => Style.name.paint color (name.toList ++ [':'])
      | none => [])
    ++ r.value.toList ++ ['\n']

def ParsedQuery.text (color : Bool) (p : ParsedQuery) : String :=
  String.ofList (Style.query.paint color p.query.toList ++ ['\n']
    ++ (if p.components.isEmpty then
      [' ', ' '] ++ Style.note.paint color "(no components)".toList ++ ['\n']
    else p.components.flatMap fun c => c.render.line color))

end TagQuery
