/-!
Log events and the lines that show them.
-/

namespace TagQuery.Log

inductive Level where
  | error
  | warn
  | info
  | debug
  | trace
  deriving DecidableEq, Repr

/-- The levels from the rarest events, 1, to the most frequent, 5. -/
def Level.rank : Level → Nat
  | error => 1
  | warn => 2
  | info => 3
  | debug => 4
  | trace => 5

def Level.label : Level → String
  | error => "ERROR"
  | warn => " WARN"
  | info => " INFO"
  | debug => "DEBUG"
  | trace => "TRACE"

structure Event where
  level : Level
  source : String
  message : String
  deriving DecidableEq, Repr

/-- An event tells one thing, its message, under this name. -/
def Event.fields (_ : Event) : List (List Char) := [['m', 'e', 's', 's', 'a', 'g', 'e']]

/-- Control characters that a terminal would act on are shown instead. -/
def shownChar (c : Char) : List Char :=
  if c = '\x1b' || c = '\x07' || c = '\x08' || c = '\x0c' || c = '\x7f' then
    ['\\', 'x', (c.toNat / 16).digitChar, (c.toNat % 16).digitChar]
  else if '\u0080' ≤ c && c ≤ '\u009f' then
    ['\\', 'u', '\x7b'] ++ Nat.toDigits 16 c.toNat ++ ['\x7d']
  else [c]

def Event.line (e : Event) : String :=
  e.level.label ++ " " ++ String.ofList (e.message.toList.flatMap shownChar)

end TagQuery.Log
