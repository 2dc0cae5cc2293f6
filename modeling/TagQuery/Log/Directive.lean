import TagQuery.Pattern.RegexSyntax
import TagQuery.Text.Blank

/-!
Reading one directive of a log filter: `level`, `source`, `source=level`, and any
of them with `[span]`, `[{field}]` or `[span{field=value}]` after the source. The
marks are looked for in the directive without the blanks around it, but the words
between them are cut from the directive with its blanks, at the same counts of
bytes, so that blanks in front shift the words against the marks.
-/

namespace TagQuery.Log

abbrev Chars := List Char

/-- What a directive asks of an event, and the rank up to which it lets such
events pass. An empty source is any source. -/
structure Directive where
  source : Chars
  field? : Option Chars
  rank : Nat
  deriving DecidableEq, Repr

def levelNames : List (String × Nat) :=
  [("off", 0), ("error", 1), ("warn", 2), ("info", 3), ("debug", 4), ("trace", 5)]

/-- A number in decimal digits, with or without a plus sign. -/
def numberOf? (cs : Chars) : Option Nat :=
  let digits := match cs with
    | '+' :: rest => rest
    | _ => cs
  if digits.isEmpty || !digits.all Char.isDigit then none
  else some (digits.foldl (fun n c => 10 * n + (c.toNat - '0'.toNat)) 0)

/-- A level by its number or its name in letters of any case. -/
def rankOf? (cs : Chars) : Option Nat :=
  match numberOf? cs with
  | some n => if n ≤ 5 then some n else none
  | none => levelNames.lookup (String.ofList (cs.map Char.toLower))

/-- A level after an equals sign; none stands for all events. -/
def levelOf? (cs : Chars) : Option Nat := if cs.isEmpty then some 5 else rankOf? cs

/-- Splits a text after `n` bytes, if a character ends there. -/
def splitBytes : Nat → Chars → Option (Chars × Chars)
  | 0, cs => some ([], cs)
  | _ + 1, [] => none
  | n + 1, c :: cs =>
    if c.utf8Size ≤ n + 1 then
      (splitBytes (n + 1 - c.utf8Size) cs).map fun (front, back) => (c :: front, back)
    else none

/-- The word between two counts of bytes. -/
def wordBetween (text : Chars) (first stop : Nat) : Option Chars := do
  let (_, back) ← splitBytes first text
  let (word, _) ← splitBytes (stop - first) back
  some word

/-- The part of a directive that is being read, and the count of bytes at which it
starts. -/
inductive Part where
  | start
  | word
  | span (first : Nat)
  | field (first : Nat)
  | afterField
  | afterSpan
  | level (first : Nat)
  deriving DecidableEq, Repr

/-- What has been read of a directive. One that asks for a span or for the value
of a field is about no event. -/
structure Draft where
  source : Chars := []
  field? : Option Chars := none
  aboutSpans : Bool := false
  deriving DecidableEq, Repr

def mayStart (c : Char) : Bool := c = '-' || c = ':' || c = '_' || Text.isAlphanumeric c

/-- The digits of a number without a sign, with or without a fraction and an
exponent, or one of the words for those that have none. -/
def isUnsigned (cs : Chars) : Bool :=
  let (_, rest) := cs.span Char.isDigit
  let rest := match rest with
    | '.' :: rest => rest.dropWhile Char.isDigit
    | _ => rest
  let mantissa := cs.take (cs.length - rest.length)
  let exponent := match rest with
    | [] => true
    | e :: rest =>
      let digits := match rest with
        | '+' :: rest => rest
        | '-' :: rest => rest
        | _ => rest
      (e = 'e' || e = 'E') && !digits.isEmpty && digits.all Char.isDigit
  (mantissa.any Char.isDigit && exponent)
    || ["inf", "infinity", "nan"].contains (String.ofList (cs.map Char.toLower))

/-- The value of a field has to be a number or a regular expression; of the numbers
only those with a plus sign are no expressions. -/
def isValue : Chars → Bool
  | '+' :: rest => isUnsigned rest
  | cs => RegexSyntax.reads cs

def Draft.setField (d : Draft) (written : Chars) : Option Draft :=
  match written.span (· ≠ '=') with
  | ([], []) => none
  | (name, []) => some { d with field? := some name }
  | (name, _ :: value) =>
    if isValue (value.takeWhile (· ≠ '=')) then
      some { d with field? := some name, aboutSpans := true }
    else none

/-- Reads the character at a count of bytes. -/
def Part.step (text : Chars) (part : Part) (d : Draft) (count : Nat) (c : Char) :
    Option (Part × Draft) :=
  match part with
  | start =>
    if c = '[' then some (span (count + 1), d)
    else if mayStart c then some (word, d)
    else none
  | word =>
    if c = '=' then do some (level (count + 1), { d with source := ← wordBetween text 0 count })
    else if c = '[' then do some (span (count + 1), { d with source := ← wordBetween text 0 count })
    else some (word, d)
  | span first =>
    if c = ']' then some (afterSpan, { d with aboutSpans := true })
    else if c = '\x7b' then do
      some (field (count + 1), { d with aboutSpans := !(← wordBetween text first count).isEmpty })
    else some (span first, d)
  | field first =>
    if c = '\x7d' then do some (afterField, ← d.setField (← wordBetween text first count))
    else some (field first, d)
  | afterField => if c = ']' then some (afterSpan, d) else none
  | afterSpan => if c = '=' then some (level (count + 1), d) else none
  | level first => some (level first, d)

/-- What a draft comes to at the end of its directive. -/
def Part.finish (text : Chars) (part : Part) (d : Draft) : Option (Draft × Nat) :=
  match part with
  | word => some (match rankOf? text with
    | some rank => (d, rank)
    | none => ({ d with source := text }, 5))
  | afterSpan => some (d, 5)
  | level first => do some (d, ← levelOf? (← splitBytes first text).2)
  | _ => none

def readFrom (text : Chars) (part : Part) (d : Draft) (count : Nat) :
    Chars → Option (Draft × Nat)
  | [] => part.finish text d
  | c :: rest => do
    let (part, d) ← part.step text d count c
    readFrom text part d (count + c.utf8Size) rest

/-- The text without the blanks around it. -/
def trimBlanks (cs : Chars) : Chars :=
  ((cs.dropWhile Text.isBlank).reverse.dropWhile Text.isBlank).reverse

/-- A directive as it is written; none within if it is about no event. -/
def Directive.ofText? (text : Chars) : Option (Option Directive) := do
  let (d, rank) ← readFrom text .start {} 0 (trimBlanks text)
  some (if d.aboutSpans then none else some ⟨d.source, d.field?, rank⟩)

end TagQuery.Log
