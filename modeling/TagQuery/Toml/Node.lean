import TagQuery.Decimal.Binary64

/-!
Documents as trees. A table remembers how it came to be, because that decides
which later lines may add to it.
-/

namespace TagQuery.Toml

/-- A stretch of the document, by all that follows its start and all that follows
its end. -/
structure Span where
  start : List Char
  stop : List Char
  deriving DecidableEq, Repr

structure Key where
  name : String
  span : Span
  deriving DecidableEq, Repr

inductive Scalar where
  | string (s : String)
  | integer (n : Int)
  | float (x : Decimal.Binary64)
  | boolean (b : Bool)
  | moment
  deriving DecidableEq, Repr

/-- How a table was made: by its own header, as part of the path in another
table's header, by a dotted key, in braces, or by a dotted key inside braces. -/
inductive Origin where
  | header
  | implied
  | dotted
  | braces
  | dottedInBraces
  deriving DecidableEq, Repr

/-- Of a list of tables the blocks are kept newest first. -/
inductive Node where
  | scalar (value : Scalar) (span : Span)
  | array (items : List Node) (span : Span)
  | table (origin : Origin) (span? : Option Span) (entries : List (Key × Node))
  | tables (blocks : List Node)

abbrev Entries := List (Key × Node)

def Entries.find? (es : Entries) (name : String) : Option (Key × Node) :=
  List.find? (fun e => e.1.name = name) es

/-- Gives the value of a key that is there already. -/
def Entries.set (es : Entries) (name : String) (x : Node) : Entries :=
  es.map fun e => if e.1.name = name then (e.1, x) else e

def Entries.erase (es : Entries) (name : String) : Entries := es.filter fun e => e.1.name ≠ name

def Entries.keys (es : Entries) : List String := es.map fun e => e.1.name

namespace Node

/-- Where the node is written. Tables without a header or braces are written
nowhere; a list of tables runs from its first header to the end of its last
block. -/
def span? : Node → Option Span
  | scalar _ s => some s
  | array _ s => some s
  | table _ s? _ => s?
  | tables blocks =>
    match blocks.head?, blocks.getLast? with
    | some (table _ (some last) _), some (table _ (some first) _) => some ⟨first.start, last.stop⟩
    | _, _ => none

end Node

end TagQuery.Toml
