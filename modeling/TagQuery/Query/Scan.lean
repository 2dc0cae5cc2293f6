import TagQuery.Query.Component
import TagQuery.Query.TagName
import TagQuery.Text.Blank
import TagQuery.Text.Lowercase

/-!
Reading a query in one pass over its lower-cased characters. A quote switches
quoting on and off; outside quotes a space or a comma ends a component, a dash
at the start of a word excludes it and a dollar makes it exact; a colon, quoted
or not, turns the word before it into the name of a tag filter. Every text is a
query: nothing is refused.
-/

namespace TagQuery

/-- What is carried from character to character. Components already read and the
characters of the current word are kept newest first. -/
structure Scan where
  found : List Component := []
  word : List Char := []
  quoted : Bool := false
  name? : Option String := none
  pending : Modifiers := {}

namespace Scan

/-- A dash counts only before the text of a word: after blanks, or after a space. -/
def atWordStart (s : Scan) : Bool :=
  s.word.all Text.isBlank || s.word.head? = some ' '

def append (s : Scan) (c : Char) : Scan := { s with word := c :: s.word }

/-- The current word as the pieces of a term: none if it is empty. -/
def pieces (s : Scan) : List String :=
  if s.word.isEmpty then [] else [String.ofList s.word.reverse]

/-- The current word becomes the name of a filter. A name read before it is lost. -/
def openFilter (s : Scan) : Scan :=
  { s with word := [], name? := some (canonicalName (String.ofList s.word.reverse)) }

/-- Ends the current component. Without a word and a name there is none, and the
modifiers stay pending for the next. -/
def flush (s : Scan) : Scan :=
  match s.name?, s.pieces with
  | none, [] => s
  | none, ps => { s with
      found := .term ⟨ps, s.pending⟩ :: s.found, word := [], pending := {} }
  | some name, ps => { s with
      found := .filter ⟨name, ⟨ps, {}⟩, s.pending⟩ :: s.found
      word := [], name? := none, pending := {} }

def step (s : Scan) (c : Char) : Scan :=
  if c = '"' then { s with quoted := !s.quoted }
  else if c = ':' then s.openFilter
  else if s.quoted then s.append c
  else if c = '-' && s.atWordStart then { s with pending.excluded := true }
  else if c = '$' then { s with pending.exact := true }
  else if c = ' ' || c = ',' then s.flush
  else s.append c

def components (s : Scan) : List Component := s.flush.found.reverse

end Scan

/-- The components of a query, in the order of the text. -/
def parse (query : String) : List Component :=
  ((Text.lower query.toList).foldl Scan.step {}).components

end TagQuery
