import TagQuery.Query.Component

/-!
The written form of a component: the marks, the name with its colon, and the
quoted text.
-/

namespace TagQuery

/-- A component taken apart for writing. The value has its quotes; that of an
empty term is a pair of quotes. -/
structure Rendering where
  excluded : Bool
  exact : Bool
  name? : Option String
  value : String
  deriving DecidableEq, Repr

def Component.render (c : Component) : Rendering where
  excluded := c.modifiers.excluded
  exact := c.modifiers.exact
  name? := c.name?
  value := "\"" ++ c.text.raw ++ "\""

def Rendering.text (r : Rendering) : String :=
  (if r.excluded then "-" else "") ++ (if r.exact then "$" else "")
    ++ (match r.name? with
      | some name => name ++ ":"
      | none => "")
    ++ r.value

/-- A query made of the written forms of the components. -/
def writeQuery (cs : List Component) : String :=
  " ".intercalate (cs.map fun c => c.render.text)

end TagQuery
