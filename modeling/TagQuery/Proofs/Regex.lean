import Mathlib.Data.List.Forall2
import Mathlib.Data.List.Infix
import TagQuery.Pattern.RegexSource
import TagQuery.Pattern.Search
import TagQuery.Text.CodePoint

/-!
The standard meaning of the regular expressions that patterns are written as:
plain and escaped characters and negated classes, each with or without a star,
looked for anywhere in a text.

* `Divides`: a text divided in order into one part for each item of a list;
* `Regex.read`: the items of an expression, or none where it goes beyond the above;
* `Regex.IsStandard`: what is asked of an engine, and by `isStandard_search` one
  that tries all places does it;
* `read_regexSource`: **the expression of a pattern has one item for each of the
  pattern's tokens.**
-/

namespace TagQuery

/-! ## Divided texts -/

section Divided

variable {α β : Type}

/-- The text can be divided in order into one part for each item. -/
def Divides (takes : α → List Char → Prop) (items : List α) (text : List Char) : Prop :=
  ∃ parts : List (List Char), parts.flatten = text ∧ List.Forall₂ takes items parts

@[simp] theorem divides_nil (takes : α → List Char → Prop) (text : List Char) :
    Divides takes [] text ↔ text = [] := by
  constructor
  · rintro ⟨parts, rfl, h⟩
    cases h
    rfl
  · rintro rfl
    exact ⟨[], rfl, List.Forall₂.nil⟩

theorem divides_cons (takes : α → List Char → Prop) (i : α) (items : List α)
    (text : List Char) :
    Divides takes (i :: items) text ↔
      ∃ part rest, text = part ++ rest ∧ takes i part ∧ Divides takes items rest := by
  constructor
  · rintro ⟨parts, rfl, h⟩
    cases h with
    | cons hpart h => exact ⟨_, _, List.flatten_cons, hpart, _, rfl, h⟩
  · rintro ⟨part, rest, rfl, hpart, parts, rfl, h⟩
    exact ⟨part :: parts, List.flatten_cons, List.Forall₂.cons hpart h⟩

theorem divides_map (takes : β → List Char → Prop) (f : α → β) (items : List α)
    (text : List Char) :
    Divides takes (items.map f) text ↔ Divides (fun i => takes (f i)) items text := by
  simp only [Divides, List.forall₂_map_left_iff]

/-- What the items take starts the text. -/
def Starts (takes : α → List Char → Prop) (items : List α) (text : List Char) : Prop :=
  ∃ part, part <+: text ∧ Divides takes items part

@[simp] theorem starts_nil (takes : α → List Char → Prop) (text : List Char) :
    Starts takes [] text :=
  ⟨[], List.nil_prefix, (divides_nil takes []).mpr rfl⟩

theorem starts_cons (takes : α → List Char → Prop) (i : α) (items : List α)
    (text : List Char) :
    Starts takes (i :: items) text ↔
      ∃ part rest, text = part ++ rest ∧ takes i part ∧ Starts takes items rest := by
  constructor
  · rintro ⟨_, ⟨after, rfl⟩, h⟩
    obtain ⟨part, rest, rfl, hpart, h⟩ := (divides_cons takes i items _).mp h
    exact ⟨part, rest ++ after, List.append_assoc .., hpart, rest, List.prefix_append rest after, h⟩
  · rintro ⟨part, _, rfl, hpart, rest, ⟨after, rfl⟩, h⟩
    refine ⟨part ++ rest, ⟨after, List.append_assoc ..⟩, ?_⟩
    exact (divides_cons takes i items _).mpr ⟨part, rest, rfl, hpart, h⟩

/-- A part of a text is a start of one of its tails. -/
theorem exists_isInfix_divides_iff (takes : α → List Char → Prop) (items : List α)
    (text : List Char) :
    (∃ part, part <:+: text ∧ Divides takes items part) ↔
      ∃ rest, rest <:+ text ∧ Starts takes items rest := by
  constructor
  · rintro ⟨part, h, hd⟩
    obtain ⟨rest, hp, hs⟩ := List.infix_iff_prefix_suffix.mp h
    exact ⟨rest, hs, part, hp, hd⟩
  · rintro ⟨rest, hs, part, hp, hd⟩
    exact ⟨part, hp.isInfix.trans hs.isInfix, hd⟩

end Divided

namespace Regex

/-! ## Expressions -/

/-- The characters of an item: one, or all but those of a class. -/
inductive Chars where
  | only (c : Char)
  | except (cs : List Char)
  deriving DecidableEq, Repr

def Chars.takes : Chars → Char → Bool
  | only d, c => c = d
  | except cs, c => !cs.contains c

structure Item where
  chars : Chars
  starred : Bool := false
  deriving DecidableEq, Repr

/-- An item takes one of its characters, a starred item any number of them. -/
def Item.Takes (i : Item) (part : List Char) : Prop :=
  if i.starred then ∀ c ∈ part, i.chars.takes c = true
  else ∃ c, part = [c] ∧ i.chars.takes c = true

/-- The characters that stand for themselves only after a backslash. -/
def metas : List Char :=
  ['\\', '.', '+', '*', '?', '(', ')', '|', '[', ']', '\x7b', '\x7d', '^', '$']

/-- Where a reader stands: outside of classes, after a backslash there, after an
opening bracket, in a class with the characters named so far, after a backslash
in it, and after its `x` in the digits of a code point. -/
inductive Place where
  | outside
  | escape
  | bracket
  | inside (cs : List Char)
  | insideEscape (cs : List Char)
  | code (cs : List Char) (digits : Option (List Char))
  deriving DecidableEq, Repr

structure Reader where
  /-- Newest first. -/
  items : List Item := []
  place : Place := .outside
  deriving DecidableEq, Repr

namespace Reader

def push (r : Reader) (chars : Chars) : Reader := ⟨⟨chars, false⟩ :: r.items, .outside⟩

/-- A star belongs to the item before it. -/
def star (r : Reader) : Option Reader :=
  match r.items with
  | ⟨chars, false⟩ :: items => some ⟨⟨chars, true⟩ :: items, .outside⟩
  | _ => none

def step (r : Reader) (c : Char) : Option Reader :=
  match r.place with
  | .outside =>
    if c = '\\' then some { r with place := .escape }
    else if c = '[' then some { r with place := .bracket }
    else if c = '*' then r.star
    else if metas.contains c then none
    else some (r.push (.only c))
  | .escape => if metas.contains c then some (r.push (.only c)) else none
  | .bracket => if c = '^' then some { r with place := .inside [] } else none
  | .inside cs =>
    if c = ']' then some (r.push (.except cs))
    else if c = '\\' then some { r with place := .insideEscape cs }
    else none
  | .insideEscape cs =>
    if c = 'n' then some { r with place := .inside (cs ++ ['\n']) }
    else if c = 'r' then some { r with place := .inside (cs ++ ['\r']) }
    else if c = 'x' then some { r with place := .code cs none }
    else none
  | .code cs none => if c = '\x7b' then some { r with place := .code cs (some []) } else none
  | .code cs (some digits) =>
    if c = '\x7d' then
      (Text.codePoint digits).map fun d => { r with place := .inside (cs ++ [d]) }
    else some { r with place := .code cs (some (digits ++ [c])) }

end Reader

/-- The items of an expression. -/
def read (source : List Char) : Option (List Item) := do
  let r ← source.foldlM Reader.step {}
  if r.place = .outside then some r.items.reverse else none

/-- An engine gives every expression that can be read the standard meaning: some
part of the text can be divided among the items. Of any other text nothing is asked. -/
def IsStandard (search : List Char → List Char → Bool) : Prop :=
  ∀ source items, read source = some items → ∀ text,
    search source text = true ↔ ∃ part, part <:+: text ∧ Divides Item.Takes items part

/-! ## An engine -/

theorem starts_single {i : Item} (h : i.starred = false) (items : List Item)
    (text : List Char) :
    Starts Item.Takes (i :: items) text ↔
      ∃ c rest, text = c :: rest ∧ i.chars.takes c = true ∧ Starts Item.Takes items rest := by
  rw [starts_cons]
  constructor
  · rintro ⟨part, rest, rfl, hpart, hs⟩
    rw [Item.Takes, if_neg (by simp [h])] at hpart
    obtain ⟨c, rfl, hc⟩ := hpart
    exact ⟨c, rest, rfl, hc, hs⟩
  · rintro ⟨c, rest, rfl, hc, hs⟩
    refine ⟨[c], rest, rfl, ?_, hs⟩
    rw [Item.Takes, if_neg (by simp [h])]
    exact ⟨c, rfl, hc⟩

/-- A starred item takes nothing, or one character and then perhaps more. -/
theorem starts_starred {i : Item} (h : i.starred = true) (items : List Item)
    (text : List Char) :
    Starts Item.Takes (i :: items) text ↔ Starts Item.Takes items text ∨
      ∃ c rest, text = c :: rest ∧ i.chars.takes c = true ∧
        Starts Item.Takes (i :: items) rest := by
  have htakes : ∀ part, i.Takes part ↔ ∀ c ∈ part, i.chars.takes c = true := by
    intro part
    rw [Item.Takes, if_pos h]
  constructor
  · intro hstart
    obtain ⟨part, rest, rfl, hpart, hs⟩ := (starts_cons Item.Takes i items text).mp hstart
    cases part with
    | nil => exact Or.inl hs
    | cons c part =>
      rw [htakes, List.forall_mem_cons] at hpart
      refine Or.inr ⟨c, part ++ rest, rfl, hpart.1, ?_⟩
      exact (starts_cons Item.Takes i items _).mpr
        ⟨part, rest, rfl, (htakes part).mpr hpart.2, hs⟩
  · rintro (hs | ⟨c, rest, rfl, hc, hs⟩)
    · exact (starts_cons Item.Takes i items text).mpr
        ⟨[], text, rfl, (htakes []).mpr (by simp), hs⟩
    · obtain ⟨part, rest, rfl, hpart, hs⟩ := (starts_cons Item.Takes i items rest).mp hs
      refine (starts_cons Item.Takes i items _).mpr ⟨c :: part, rest, rfl, ?_, hs⟩
      rw [htakes, List.forall_mem_cons]
      exact ⟨hc, (htakes part).mp hpart⟩

/-- Do the items match some start of the text? -/
def matchStart : List Item → List Char → Bool
  | [], _ => true
  | i :: items, [] => i.starred && matchStart items []
  | i :: items, c :: text =>
    if i.starred then
      matchStart items (c :: text) || i.chars.takes c && matchStart (i :: items) text
    else i.chars.takes c && matchStart items text

theorem matchStart_iff (items : List Item) (text : List Char) :
    matchStart items text = true ↔ Starts Item.Takes items text := by
  fun_induction matchStart items text with
  | case1 text => simp
  | case2 i items ih =>
    by_cases h : i.starred = true
    · rw [starts_starred h, ← ih]
      simp [h]
    · rw [starts_single (by simpa using h)]
      simp [h]
  | case3 i items c text h ih₁ ih₂ =>
    rw [starts_starred h, Bool.or_eq_true, Bool.and_eq_true, ih₁, ih₂]
    simp
  | case4 i items c text h ih =>
    rw [starts_single (by simpa using h), Bool.and_eq_true, ih]
    simp

/-- Tries the items of an expression from every place of the text on. -/
def search (source text : List Char) : Bool :=
  match read source with
  | some items => text.tails.any (matchStart items)
  | none => false

theorem isStandard_search : IsStandard search := by
  intro source items h text
  rw [exists_isInfix_divides_iff, search, h]
  simp only [List.any_eq_true, List.mem_tails, matchStart_iff]

end Regex

/-! ## The expressions of patterns -/

namespace Token

/-- The item that a token is written as. -/
def item : Token → Regex.Item
  | char c => ⟨.only c, false⟩
  | one => ⟨.except lineBreaks, false⟩
  | run => ⟨.except lineBreaks, true⟩

/-- The table of specials holds what has to be escaped and nothing else. -/
private theorem contains_regexSpecials (c : Char) :
    regexSpecials.contains c = Regex.metas.contains c := by
  have h : regexSpecials.Perm Regex.metas := by decide
  simp only [List.contains_eq_mem, h.mem_iff]

private theorem reads_anyClass (items : List Regex.Item) :
    anyClass.foldlM Regex.Reader.step ⟨items, .outside⟩
      = some ⟨⟨.except lineBreaks, false⟩ :: items, .outside⟩ := by
  rfl

/-- Between two tokens the reader stands outside of classes, with an item for each
token before. -/
private theorem reads_regex (t : Token) (items : List Regex.Item) :
    t.regex.foldlM Regex.Reader.step ⟨items, .outside⟩ = some ⟨t.item :: items, .outside⟩ := by
  cases t with
  | one => exact reads_anyClass items
  | run =>
    rw [regex, List.foldlM_append, reads_anyClass]
    rfl
  | char c =>
    rw [regex, contains_regexSpecials]
    split
    next h =>
      have hmeta : c ∈ Regex.metas := by simpa using h
      simp [Regex.Reader.step, Regex.Reader.push, item, hmeta]
    next h =>
      have hmeta : c ∉ Regex.metas := by simpa using h
      have hslash : c ≠ '\\' := by rintro rfl; exact hmeta (by decide)
      have hbracket : c ≠ '[' := by rintro rfl; exact hmeta (by decide)
      have hstar : c ≠ '*' := by rintro rfl; exact hmeta (by decide)
      simp [Regex.Reader.step, Regex.Reader.push, item, hslash, hbracket, hstar, hmeta]

private theorem reads_tokens (ts : List Token) (items : List Regex.Item) :
    (ts.flatMap regex).foldlM Regex.Reader.step ⟨items, .outside⟩
      = some ⟨(ts.map item).reverse ++ items, .outside⟩ := by
  induction ts generalizing items with
  | nil => rfl
  | cons t ts ih =>
    rw [List.flatMap_cons, List.foldlM_append, reads_regex, Option.bind_eq_bind, Option.bind_some,
      ih]
    simp

end Token

/-- **The expression of a pattern has one item for each of the pattern's tokens.** -/
theorem read_regexSource (pattern : List Char) :
    Regex.read (regexSource pattern) = some ((Token.read pattern).map Token.item) := by
  rw [Regex.read, regexSource, Token.reads_tokens]
  simp

end TagQuery
