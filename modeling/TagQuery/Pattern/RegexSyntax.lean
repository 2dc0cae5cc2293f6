import TagQuery.Text.Alphanumeric
import TagQuery.Text.CodePoint

/-!
Which texts are regular expressions; what they match is not asked. Counts in
braces are no part of them here, and neither are word boundaries.
-/

namespace TagQuery.RegexSyntax

abbrev Chars := List Char

/-- What a backslash and the characters after it stand for. -/
inductive Meaning where
  | char (c : Char)
  | set
  | anchor
  deriving DecidableEq, Repr

def readCodePoint (count : Nat) (cs : Chars) : Option (Meaning × Chars) :=
  if cs.length < count then none
  else (Text.codePoint (cs.take count)).map fun c => (.char c, cs.drop count)

def controlNames : List (Char × Char) :=
  [('a', '\x07'), ('f', '\x0c'), ('t', '\t'), ('n', '\n'), ('r', '\r'), ('v', '\x0b')]

/-- Letters and digits mean something only where listed; all else in ASCII stands
for itself. -/
def readEscape : Chars → Option (Meaning × Chars)
  | [] => none
  | c :: rest =>
    if ['d', 's', 'w', 'D', 'S', 'W'].contains c then some (.set, rest)
    else if c = 'A' || c = 'z' then some (.anchor, rest)
    else if c = 'x' then readCodePoint 2 rest
    else if c = 'u' then readCodePoint 4 rest
    else if c = 'U' then readCodePoint 8 rest
    else if c = 'p' || c = 'P' then
      match rest with
      | kind :: rest =>
        if ['L', 'M', 'N', 'P', 'S', 'Z', 'C'].contains kind.toUpper then some (.set, rest) else none
      | [] => none
    else match controlNames.lookup c with
      | some control => some (.char control, rest)
      | none =>
        if c.isAlphanum || c = '<' || c = '>' || '\x7f' < c then none else some (.char c, rest)

/-- One item between square brackets. -/
def readItem : Chars → Option (Meaning × Chars)
  | [] => none
  | '\\' :: rest => readEscape rest
  | c :: rest => some (.char c, rest)

/-- The names of character sets between `[:` and `:]`. -/
def setNames : List String :=
  ["alnum", "alpha", "ascii", "blank", "cntrl", "digit", "graph", "lower", "print", "punct",
    "space", "upper", "word", "xdigit"]

def skipNamedSet (cs : Chars) : Option Chars := do
  let ':' :: rest := cs | none
  let rest := if rest.head? = some '^' then rest.tail else rest
  let name := rest.takeWhile (· ≠ ':')
  let ':' :: ']' :: rest := rest.dropWhile (· ≠ ':') | none
  if setNames.contains (String.ofList name) then some rest else none

/-- The start of a bracketed set: hyphens, or else one closing bracket, may stand
there for themselves. -/
def skipSetStart (cs : Chars) : Chars :=
  let cs := if cs.head? = some '^' then cs.tail else cs
  if cs.head? = some '-' then cs.dropWhile (· = '-')
  else if cs.head? = some ']' then cs.tail
  else cs

/-- The rest after the brackets that are open, `depth` many. -/
def skipSet (depth : Nat) : Nat → Chars → Option Chars
  | 0, _ => none
  | _ + 1, [] => none
  | fuel + 1, '[' :: rest =>
    match skipNamedSet rest with
    | some rest => skipSet depth fuel rest
    | none => skipSet (depth + 1) fuel (skipSetStart rest)
  | fuel + 1, ']' :: rest => if depth ≤ 1 then some rest else skipSet (depth - 1) fuel rest
  | fuel + 1, '&' :: '&' :: rest => skipSet depth fuel rest
  | fuel + 1, '-' :: '-' :: rest => skipSet depth fuel rest
  | fuel + 1, '~' :: '~' :: rest => skipSet depth fuel rest
  | fuel + 1, cs => do
    let (first, rest) ← readItem cs
    if first = .anchor then none
    else match rest with
      | '-' :: ']' :: _ => skipSet depth fuel rest
      | '-' :: '-' :: _ => skipSet depth fuel rest
      | '-' :: rest =>
        let (last, rest) ← readItem rest
        match first, last with
        | .char a, .char b => if a ≤ b then skipSet depth fuel rest else none
        | _, _ => none
      | _ => skipSet depth fuel rest

/-- Where a reader of an expression stands: in how many groups, after something
that may be repeated or not, and which names of groups it has met. -/
structure State where
  depth : Nat := 0
  repeatable : Bool := false
  names : List Chars := []

def isGroupName (name : Chars) : Bool :=
  match name with
  | [] => false
  | c :: rest =>
    (c = '_' || Text.isAlphanumeric c && !c.isDigit)
      && rest.all fun c => c = '_' || c = '.' || c = '[' || c = ']' || Text.isAlphanumeric c

/-- Flags stand once each, with at most one hyphen, and not at the end. -/
def areFlags (cs : Chars) : Bool :=
  cs.all ['i', 'm', 's', 'U', 'u', 'R', 'x', '-'].contains && cs.all (fun c => cs.count c = 1)
    && cs.getLast? ≠ some '-'

def enterNamed (s : State) (cs : Chars) : Option (State × Chars) :=
  let name := cs.takeWhile (· ≠ '>')
  match cs.dropWhile (· ≠ '>') with
  | [] => none
  | _ :: rest =>
    if isGroupName name && !s.names.contains name then
      some (⟨s.depth + 1, false, name :: s.names⟩, rest)
    else none

/-- What follows an opening parenthesis: a group, with a name or flags or neither,
or flags alone. -/
def enterGroup (s : State) : Chars → Option (State × Chars)
  | '?' :: 'P' :: '<' :: rest => enterNamed s rest
  | '?' :: '<' :: rest => enterNamed s rest
  | '?' :: rest =>
    let flags := rest.takeWhile fun c => c ≠ ':' && c ≠ ')'
    if !areFlags flags then none
    else match rest.dropWhile fun c => c ≠ ':' && c ≠ ')' with
      | ':' :: rest => some ({ s with depth := s.depth + 1, repeatable := false }, rest)
      | ')' :: rest => if flags.isEmpty then none else some ({ s with repeatable := false }, rest)
      | _ => none
  | rest => some ({ s with depth := s.depth + 1, repeatable := false }, rest)

def readsFrom (s : State) : Nat → Chars → Bool
  | 0, _ => false
  | _ + 1, [] => s.depth = 0
  | fuel + 1, c :: rest =>
    let next? : Option (State × Chars) :=
      if c = '(' then enterGroup s rest
      else if c = ')' then
        if s.depth = 0 then none else some ({ s with depth := s.depth - 1, repeatable := true }, rest)
      else if c = '|' then some ({ s with repeatable := false }, rest)
      else if c = '*' || c = '+' || c = '?' then
        if s.repeatable then some (s, if rest.head? = some '?' then rest.tail else rest) else none
      else if c = '\x7b' then none
      else if c = '[' then
        (skipSet 1 (rest.length + 1) (skipSetStart rest)).map ({ s with repeatable := true }, ·)
      else if c = '\\' then (readEscape rest).map fun (_, rest) => ({ s with repeatable := true }, rest)
      else some ({ s with repeatable := true }, rest)
    match next? with
    | some (s, rest) => readsFrom s fuel rest
    | none => false

/-- Is the text a regular expression? -/
def reads (text : Chars) : Bool := readsFrom {} (text.length + 1) text

end TagQuery.RegexSyntax
