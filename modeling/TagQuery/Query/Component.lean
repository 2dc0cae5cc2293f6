/-!
What a query asks for: a list of components, each a free-text term or a tag
filter, and each possibly excluded or exact.
-/

namespace TagQuery

/-- The marks in front of a component: it must not match, or must match exactly. -/
structure Modifiers where
  excluded : Bool := false
  exact : Bool := false
  deriving DecidableEq, Repr

/-- Free text in pieces. -/
structure Term where
  pieces : List String
  modifiers : Modifiers := {}
  deriving DecidableEq, Repr

/-- A tag to be looked up under the category `name`. The modifiers of the filter
are its own; those of `tag` have no part in them. -/
structure TagFilter where
  name : String
  tag : Term
  modifiers : Modifiers := {}
  deriving DecidableEq, Repr

inductive Component where
  | term (t : Term)
  | filter (f : TagFilter)
  deriving DecidableEq, Repr

namespace Term

def isEmpty (t : Term) : Bool := t.pieces.isEmpty

/-- The pieces put together. -/
def raw (t : Term) : String := String.join t.pieces

end Term

namespace Component

/-- The text of a component; of a filter, its tag. -/
def text : Component → Term
  | term t => t
  | filter f => f.tag

def modifiers : Component → Modifiers
  | term t => t.modifiers
  | filter f => f.modifiers

def name? : Component → Option String
  | term _ => none
  | filter f => some f.name

end Component

end TagQuery
