/-!
How help pages and messages about wrong arguments stand out on a terminal. The
marks are part of their text, and are stripped where no terminal shows it.
-/

namespace TagQuery

inductive Emphasis where
  | heading
  | literal
  | valid
  | invalid
  | alarm
  deriving DecidableEq, Repr

namespace Emphasis

/-- The numbers of the sequences that put an emphasis on. -/
def codes : Emphasis → List String
  | heading => ["1", "4"]
  | literal => ["1"]
  | valid => ["32"]
  | invalid => ["33"]
  | alarm => ["1", "31"]

def mark (e : Emphasis) (s : String) : String :=
  String.join (e.codes.map fun n => "\x1b[" ++ n ++ "m") ++ s ++ "\x1b[0m"

end Emphasis

end TagQuery
