import TagQuery.Log.Filter

/-!
What is told on the error output, and the sources of the events that are logged.
-/

namespace TagQuery

/-- A line for the error output: an event that may be filtered out, or a plain
line. -/
inductive Notice where
  | event (e : Log.Event)
  | line (s : String)
  deriving DecidableEq, Repr

namespace Notice

def debug (source message : String) : Notice := event ⟨.debug, source, message⟩

def text? (filter : Log.Filter) : Notice → Option String
  | event e => if filter.passes e then some e.line else none
  | line s => some s

end Notice

/-! The sources of the events, as a log filter names them. -/

def inputSource : String := "tagsearch::input"

def cacheSource : String := "tagsearch::query::engine"

def configSource : String := "tagsearch::config"

def parseSource : String := "tagsearch::cmd_parse"

def findSource : String := "tagsearch::cmd_match"

end TagQuery
