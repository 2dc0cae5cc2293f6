import TagQuery.CommandLine.Help
import TagQuery.Output.Escapes

/-!
Reading the arguments of an invocation from left to right. An option that waits
for its value is settled only when the next option or positional value comes or
the arguments end; until then other faults may come first.
-/

namespace TagQuery

inductive UsageFault where
  | unknownArgument (shown : String)
  | unknownCommand (name : String)
  | missingValue (s : Setting)
  | badValue (s : Setting) (value : String)
  | unwantedValue (f : Flag) (value : String)
  | repeated (shown : String)
  | missingArgument (shown : String)
  deriving DecidableEq, Repr

/-- Why an invocation ends before it is run. -/
inductive Halt where
  | help (p : Page)
  | version (l : Level)
  | fault (f : UsageFault)
  deriving DecidableEq, Repr

def Setting.valuesNote : Setting → String
  | config => ""
  | output => "\n  [possible values: " ++ Emphasis.valid.mark "text" ++ ", "
    ++ Emphasis.valid.mark "json" ++ "]"

namespace UsageFault

/-- What is wrong, with what was given and what may be given marked. -/
def account : UsageFault → String
  | unknownArgument shown => "unexpected argument '" ++ Emphasis.invalid.mark shown ++ "' found"
  | unknownCommand name => "unrecognized subcommand '" ++ Emphasis.invalid.mark name ++ "'"
  | missingValue s =>
    "a value is required for '" ++ Emphasis.invalid.mark s.usage ++ "' but none was supplied"
      ++ s.valuesNote
  | badValue s value =>
    "invalid value '" ++ Emphasis.invalid.mark value ++ "' for '" ++ Emphasis.literal.mark s.usage
      ++ "'" ++ s.valuesNote
  | unwantedValue f value =>
    "unexpected value '" ++ Emphasis.invalid.mark value ++ "' for '" ++ Emphasis.literal.mark f.usage
      ++ "' found; no more were expected"
  | repeated shown =>
    "the argument '" ++ Emphasis.invalid.mark shown ++ "' cannot be used multiple times"
  | missingArgument shown =>
    "the following required arguments were not provided:\n  " ++ Emphasis.valid.mark shown

/-- The message with its marks for a terminal. -/
def marked (f : UsageFault) : String := Emphasis.alarm.mark "error:" ++ " " ++ f.account

/-- The message without marks, and without what else a terminal would act on. -/
def message (f : UsageFault) : String := Escapes.strip f.marked

end UsageFault

/-- What the arguments of one level have said so far. The flags are those in
force, and the values are newest first. -/
structure Given where
  config? : Option String := none
  format? : Option Format := none
  flags : List Flag := []
  values : List String := []
  pending? : Option (Setting × Option String) := none
  deriving DecidableEq, Repr

namespace Given

def fail {α : Type} (f : UsageFault) : Except Halt α := .error (.fault f)

def assign (g : Given) (s : Setting) (value? : Option String) : Except Halt Given :=
  match value?, s with
  | none, _ => fail (.missingValue s)
  | some value, .config =>
    if g.config?.isSome then fail (.repeated s.usage)
    else if value = "" then fail (.missingValue s)
    else .ok { g with config? := some value }
  | some value, .output =>
    if g.format?.isSome then fail (.repeated s.usage)
    else if value = "" then fail (.missingValue s)
    else match Format.ofName? value with
      | some format => .ok { g with format? := some format }
      | none => fail (.badValue s value)

/-- Settles the option that is pending. -/
def settle (g : Given) : Except Halt Given :=
  match g.pending? with
  | none => .ok g
  | some (s, value?) => { g with pending? := none }.assign s value?

def isWaiting (g : Given) : Bool :=
  match g.pending? with
  | some (_, none) => true
  | _ => false

def raise (g : Given) (level : Level) (f : Flag) : Except Halt Given := do
  let g ← g.settle
  match f with
  | .help => .error (.help (.level level))
  | .version => .error (.version level)
  | _ =>
    if g.flags.contains f then fail (.repeated f.usage)
    else .ok { g with flags := f :: g.flags.filter fun other => f.opposite? ≠ some other }

/-- An option whose value is attached to it, or is to come. -/
def setOption (g : Given) (s : Setting) (attached? : Option String) : Except Halt Given := do
  let g ← g.settle
  match attached? with
  | some value => g.assign s (some value)
  | none => .ok { g with pending? := some (s, none) }

/-- The characters after a single dash. -/
def readShorts (g : Given) (level : Level) : List Char → Except Halt Given
  | [] => .ok g
  | c :: rest =>
    match level.ofShort? c with
    | none => fail (.unknownArgument (String.ofList ['-', c]))
    | some (.flag f) => do readShorts (← g.raise level f) level rest
    | some (.setting s) =>
      match rest with
      | [] => g.setOption s none
      | '=' :: value => g.setOption s (some (String.ofList value))
      | value => g.setOption s (some (String.ofList value))

/-- The characters after two dashes. -/
def readLong (g : Given) (level : Level) (cs : List Char) : Except Halt Given :=
  let name := String.ofList (cs.takeWhile (· ≠ '='))
  let value? := match cs.dropWhile (· ≠ '=') with
    | [] => none
    | _ :: value => some (String.ofList value)
  match level.ofLong? name, value? with
  | none, _ => fail (.unknownArgument ("--" ++ name))
  | some (.flag f), none => g.raise level f
  | some (.flag f), some value => fail (.unwantedValue f value)
  | some (.setting s), value? => g.setOption s value?

/-- A value that belongs to no option. -/
def addValue (g : Given) (value : String) : Except Halt Given := do
  let g ← g.settle
  return { g with values := value :: g.values }

/-- What one argument does. One that is neither an option nor the value of one comes to
`otherwise`. -/
def readOne (g : Given) (level : Level) (arg : String) (otherwise : Except Halt Given) :
    Except Halt Given :=
  match arg.toList with
  | '-' :: '-' :: cs => g.readLong level cs
  | '-' :: c :: cs => g.readShorts level (c :: cs)
  | _ =>
    match g.pending? with
    | some (s, none) => .ok { g with pending? := some (s, some arg) }
    | _ => otherwise

/-- The arguments of a command. After two dashes alone all are values. -/
def readCommand (level : Level) (g : Given) : List String → Except Halt Given
  | [] => g.settle
  | arg :: rest =>
    if arg = "--" then do
      let g ← g.settle
      return { g with values := rest.reverse ++ g.values }
    else do readCommand level (← g.readOne level arg (g.addValue arg)) rest

end Given

/-- The page that a chain of names after `help` leads to. -/
def helpPage : List String → Except Halt Page
  | [] => .ok (.level .program)
  | name :: rest =>
    let page? := if name = "help" then some Page.help else (Level.ofName? name).map .level
    match page?, rest with
    | none, _ => Given.fail (.unknownCommand name)
    | some page, [] => .ok page
    | some _, inner :: _ => Given.fail (.unknownCommand inner)

/-- The arguments before the command, and the command with those after it. An
option before the command is settled only after the command has been read. -/
def readProgram (g : Given) : List String → Except Halt (Given × Option (Level × List String))
  | [] => .ok (g, none)
  | arg :: rest =>
    match if g.isWaiting then none else Level.ofName? arg with
    | some level => .ok (g, some (level, rest))
    | none =>
      if !g.isWaiting && arg = "help" then do .error (.help (← helpPage rest))
      else if arg = "--" then
        match rest with
        | [] => .ok (g, none)
        | name :: _ =>
          if name = "help" || (Level.ofName? name).isSome then Given.fail (.unknownArgument name)
          else Given.fail (.unknownCommand name)
      else do
        readProgram (← g.readOne .program arg (Given.fail (.unknownCommand arg))) rest

/-- A configuration file may be named by a variable where no option names one, but
not by an empty text. -/
def checkVariable (fallback? : Option String) (g : Given) : Except Halt Unit :=
  if g.config?.isNone && fallback? = some "" then Given.fail (.missingValue .config) else .ok ()

/-- The request of a command, if its required values are there. -/
def Given.request (g : Given) : Level → Except Halt (Option Request)
  | .program => .ok none
  | .parse => .ok (some (.parse g.values.reverse (g.format?.getD .text)))
  | .find =>
    match g.values.reverse with
    | [] => Given.fail (.missingArgument "<PATTERN>")
    | pattern :: haystacks => .ok (some (.find {
        pattern, haystacks
        ignoreCase := g.flags.contains .ignoreCase
        caseSensitive := g.flags.contains .caseSensitive
        wildcard := g.flags.contains .wildcard
        noWildcard := g.flags.contains .noWildcard
        format := g.format?.getD .text }))
  | .escape =>
    match g.values.reverse with
    | [] => Given.fail (.missingArgument "<VALUE>...")
    | values => .ok (some (.escape values))

/-- Reads the arguments after the program's name. The option nearest to the
command names the configuration file, then one before the command, then the
variable. -/
def readArguments (fallback? : Option String) (args : List String) : Except Halt Invocation := do
  let (outer, command?) ← readProgram {} args
  let (inner, request?) ← match command? with
    | none => pure ({}, none)
    | some (level, rest) => do
      let inner ← Given.readCommand level {} rest
      checkVariable fallback? inner
      pure (inner, ← inner.request level)
  let outer ← outer.settle
  checkVariable fallback? outer
  return ⟨inner.config? <|> outer.config? <|> fallback?, request?⟩

end TagQuery
