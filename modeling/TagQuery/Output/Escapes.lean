/-!
Escape sequences of a terminal, and a text without them. What is not a sequence
stays, but for control characters, of which only those stay that leave a blank.
-/

namespace TagQuery.Escapes

/-- Where a text has got to: outside of all sequences, after the escape character,
after some that announce a longer sequence, inside a control sequence, a system
command, the three parts of the head of a device string, or inside a string that
only its terminator ends. -/
inductive State where
  | ground
  | escape
  | announced
  | control
  | command
  | device
  | deviceParameter
  | deviceMark
  | string
  deriving DecidableEq, Repr

def isBreak (c : Char) : Bool := c = '\t' || c = '\n' || c = '\x0c' || c = '\r'

def isControl (c : Char) : Bool := c < ' ' || c = '\x7f'

/-- The bytes of a terminator of strings end one wherever they stand. -/
def endsString (c : Char) : Bool := (String.utf8EncodeChar c).contains 0x9C

/-- A character of a sequence that a break may cut short: `next` is what any other
character leads to, and those beyond ASCII and all other control characters lead
nowhere. -/
def State.within (s : State) (c : Char) (next : State) : State × Bool :=
  if isBreak c then (.ground, true)
  else if isControl c || '\x7f' < c then (s, false)
  else (next, false)

def State.afterEscape (c : Char) : State :=
  if c < '0' then .announced
  else if c = '[' then .control
  else if c = ']' then .command
  else if c = 'P' then .device
  else if c = 'X' || c = '^' || c = '_' then .string
  else .ground

/-- The head of a device string: a digit, a colon or a semicolon leads to
`parameter`, a mark such as a question mark to `marked`. -/
def State.inDevice (s parameter marked : State) (c : Char) : State :=
  if c < ' ' || '\x7e' < c then s
  else if c < '0' then .deviceMark
  else if c < '<' then parameter
  else if c < '@' then marked
  else .string

/-- Where a character leads, and whether it stays in the text. -/
def State.step (s : State) (c : Char) : State × Bool :=
  if c = '\x1b' then (.escape, false)
  else if c = '\x18' || c = '\x1a' then (.ground, false)
  else match s with
    | ground => (.ground, isBreak c || !isControl c)
    | escape => s.within c (.afterEscape c)
    | announced => s.within c (if c < '0' then .announced else .ground)
    | control => s.within c (if c < '@' then .control else .ground)
    | command => (if c = '\x07' then .ground else .command, false)
    | device => (s.inDevice .deviceParameter .deviceParameter c, false)
    | deviceParameter => (s.inDevice .deviceParameter .string c, false)
    | deviceMark => (s.inDevice .string .string c, false)
    | string => (if endsString c then .ground else .string, false)

def stripOnto (out : List Char) (s : State) : List Char → List Char
  | [] => out.reverse
  | c :: rest =>
    let (next, stays) := s.step c
    stripOnto (if stays then c :: out else out) next rest

/-- A text as it is written where escape sequences have no effect. -/
def strip (text : String) : String := String.ofList (stripOnto [] .ground text.toList)

end TagQuery.Escapes
