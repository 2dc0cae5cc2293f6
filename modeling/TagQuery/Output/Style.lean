/-!
Terminal styles as escape sequences. A style is put on after a reset, and taken
off by one.
-/

namespace TagQuery

inductive Color where
  | red
  | yellow
  | cyan
  deriving DecidableEq, Repr

structure Style where
  color? : Option Color := none
  bold : Bool := false
  dimmed : Bool := false
  deriving DecidableEq, Repr

/-- The last digit of the sequence that sets the colour of the text. -/
def Color.digit : Color → Char
  | red => '1'
  | yellow => '3'
  | cyan => '6'

namespace Style

def name : Style := { color? := some .cyan }

def excluded : Style := { color? := some .red, bold := true }

def exact : Style := { color? := some .yellow, bold := true }

def query : Style := { bold := true }

def note : Style := { dimmed := true }

def reset : List Char := ['\x1b', '[', '0', 'm']

def on (s : Style) : List Char :=
  reset ++ (if s.bold then ['\x1b', '[', '1', 'm'] else [])
    ++ (if s.dimmed then ['\x1b', '[', '2', 'm'] else [])
    ++ (match s.color? with
      | some c => ['\x1b', '[', '3', c.digit, 'm']
      | none => [])

/-- A text in a style, or the bare text where colour is off. -/
def paint (color : Bool) (s : Style) (cs : List Char) : List Char :=
  if color then s.on ++ cs ++ reset else cs

end Style

end TagQuery
