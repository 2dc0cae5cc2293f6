import TagQuery.Output.Json
import TagQuery.Text.CodePoint

/-!
A reader of JSON, and what it makes of the values that are written.

The reader takes one character at a time and keeps the lists and records that are still
open on a stack. It takes all of JSON: blanks around every mark, numbers, nulls, each
escape, and characters written as a pair of surrogates. Nothing in it is about the
layout that values are written in.

* `Letters.reads_escaped`: escaped characters are read as themselves;
* `Reader.reads_write`: a written value is read as that value, whatever is open around it;
* `read_document`: **a document is read as the value that it was written from.**
-/

namespace TagQuery.Json

/-! ## Values of a text -/

/-- What a JSON text says. Numbers stay as they are written, fields in their order. -/
inductive Value where
  | null
  | bool (b : Bool)
  | number (written : List Char)
  | text (s : String)
  | list (items : List Value)
  | record (fields : List (String × Value))

mutual

/-- A value that is to be written, as one that is read. -/
def said : Json → Value
  | text s => .text s
  | bool b => .bool b
  | list xs => .list (saidItems xs)
  | record fields => .record (saidFields fields)

def saidItems : List Json → List Value
  | [] => []
  | x :: xs => said x :: saidItems xs

def saidFields : List (String × Json) → List (String × Value)
  | [] => []
  | (k, x) :: fields => (k, said x) :: saidFields fields

end

/-! ## Texts between quotes -/

/-- The characters that one letter after a backslash may stand for. -/
def unescape (c : Char) : Option Char :=
  [('"', '"'), ('\\', '\\'), ('/', '/'), ('b', '\x08'), ('f', '\x0c'), ('n', '\n'), ('r', '\r'),
    ('t', '\t')].lookup c

/-- Where a reader stands in a text: between two characters, after a backslash, in the
four digits of a code point, perhaps with the leading surrogate before them, or after a
leading surrogate, which a backslash and a `u` must follow. -/
inductive Spot where
  | plain
  | escape
  | code (lead? : Option Nat) (digits : List Char)
  | lead (n : Nat)
  | leadEscape (n : Nat)
  deriving DecidableEq, Repr

structure Letters where
  /-- Newest first. -/
  out : List Char := []
  spot : Spot := .plain
  deriving DecidableEq, Repr

namespace Letters

def push (l : Letters) (c : Char) : Letters := ⟨c :: l.out, .plain⟩

/-- A code point by itself, or the trailing half of a surrogate pair. -/
def endCode (l : Letters) (lead? : Option Nat) (n : Nat) : Option Letters :=
  match lead? with
  | none =>
    if n.isValidChar then some (l.push (Char.ofNat n))
    else if n < 0xDC00 then some { l with spot := .lead n }
    else none
  | some high =>
    if 0xDC00 ≤ n ∧ n < 0xE000 then
      some (l.push (Char.ofNat (0x10000 + (high - 0xD800) * 0x400 + (n - 0xDC00))))
    else none

/-- Control characters and quotes stand in a text only as escapes. -/
def step (l : Letters) (c : Char) : Option Letters :=
  match l.spot with
  | .plain =>
    if c = '\\' then some { l with spot := .escape }
    else if c = '"' || c < ' ' then none
    else some (l.push c)
  | .escape => if c = 'u' then some { l with spot := .code none [] } else (unescape c).map l.push
  | .code lead? digits => do
    let n ← Text.hexValue (digits ++ [c])
    if digits.length < 3 then some { l with spot := .code lead? (digits ++ [c]) }
    else l.endCode lead? n
  | .lead n => if c = '\\' then some { l with spot := .leadEscape n } else none
  | .leadEscape n => if c = 'u' then some { l with spot := .code (some n) [] } else none

end Letters

/-! ## Numbers -/

/-- The part of a number that was read last: its sign, a zero or another whole part, the
point, the fraction, the mark of an exponent, the sign of one, or its digits. -/
inductive Numeral where
  | sign
  | zero
  | whole
  | point
  | fraction
  | mark
  | markSign
  | exponent
  deriving DecidableEq, Repr

namespace Numeral

def afterWhole (c : Char) : Option Numeral :=
  if c = '.' then some point else if c = 'e' || c = 'E' then some mark else none

/-- No digit follows a zero in front. -/
def step : Numeral → Char → Option Numeral
  | sign, c => if c = '0' then some zero else if c.isDigit then some whole else none
  | zero, c => afterWhole c
  | whole, c => if c.isDigit then some whole else afterWhole c
  | point, c => if c.isDigit then some fraction else none
  | fraction, c =>
    if c.isDigit then some fraction else if c = 'e' || c = 'E' then some mark else none
  | mark, c =>
    if c = '+' || c = '-' then some markSign else if c.isDigit then some exponent else none
  | markSign, c | exponent, c => if c.isDigit then some exponent else none

/-- May a number end here? -/
def ends : Numeral → Bool
  | zero | whole | fraction | exponent => true
  | sign | point | mark | markSign => false

end Numeral

/-! ## The reader -/

/-- What is open around a place: a list with its items so far, or a record with its
fields so far and the name of the field that is being read, all newest first. -/
inductive Frame where
  | items (done : List Value)
  | field (done : List (String × Value)) (name : String)

/-- What must come next, or what is being read. A text is either a value, or a name that
follows the fields in `done?`. -/
inductive Place where
  | value
  | firstItem
  | firstName
  | name (done : List (String × Value))
  | colon (done : List (String × Value)) (name : String)
  | word (rest : List Char) (v : Value)
  | number (part : Numeral) (written : List Char)
  | text (done? : Option (List (String × Value))) (letters : Letters)
  | after (v : Value)

structure Reader where
  place : Place := .value
  opened : List Frame := []

def isBlank (c : Char) : Bool := c = ' ' || c = '\t' || c = '\n' || c = '\r'

namespace Reader

/-- The first character of a value. -/
def start (c : Char) (opened : List Frame) : Option Reader :=
  if c = '"' then some ⟨.text none {}, opened⟩
  else if c = '[' then some ⟨.firstItem, opened⟩
  else if c = '\x7b' then some ⟨.firstName, opened⟩
  else if c = 't' then some ⟨.word "rue".toList (.bool true), opened⟩
  else if c = 'f' then some ⟨.word "alse".toList (.bool false), opened⟩
  else if c = 'n' then some ⟨.word "ull".toList .null, opened⟩
  else if c = '-' then some ⟨.number .sign [c], opened⟩
  else (Numeral.sign.step c).map fun part => ⟨.number part [c], opened⟩

/-- A character after a value that is complete. -/
def proceed (v : Value) (opened : List Frame) (c : Char) : Option Reader :=
  if isBlank c then some ⟨.after v, opened⟩
  else match opened with
    | [] => none
    | .items done :: opened =>
      if c = ',' then some ⟨.value, .items (v :: done) :: opened⟩
      else if c = ']' then some ⟨.after (.list (v :: done).reverse), opened⟩
      else none
    | .field done name :: opened =>
      if c = ',' then some ⟨.name ((name, v) :: done), opened⟩
      else if c = '\x7d' then some ⟨.after (.record ((name, v) :: done).reverse), opened⟩
      else none

/-- A text that has met its closing quote. -/
def endText (done? : Option (List (String × Value))) (l : Letters) (opened : List Frame) :
    Reader :=
  let s := String.ofList l.out.reverse
  match done? with
  | none => ⟨.after (.text s), opened⟩
  | some done => ⟨.colon done s, opened⟩

def step (r : Reader) (c : Char) : Option Reader :=
  match r.place with
  | .value => if isBlank c then some r else start c r.opened
  | .firstItem =>
    if isBlank c then some r
    else if c = ']' then some ⟨.after (.list []), r.opened⟩
    else start c (.items [] :: r.opened)
  | .firstName =>
    if isBlank c then some r
    else if c = '\x7d' then some ⟨.after (.record []), r.opened⟩
    else if c = '"' then some { r with place := .text (some []) {} }
    else none
  | .name done =>
    if isBlank c then some r
    else if c = '"' then some { r with place := .text (some done) {} }
    else none
  | .colon done name =>
    if isBlank c then some r
    else if c = ':' then some ⟨.value, .field done name :: r.opened⟩
    else none
  | .word rest v =>
    if rest.head? = some c then
      some { r with place := if rest.tail.isEmpty then .after v else .word rest.tail v }
    else none
  | .number part written =>
    match part.step c with
    | some part => some { r with place := .number part (c :: written) }
    | none => if part.ends then proceed (.number written.reverse) r.opened c else none
  | .text done? l =>
    match l.step c with
    | some l => some { r with place := .text done? l }
    | none => if l.spot = .plain ∧ c = '"' then some (endText done? l r.opened) else none
  | .after v => proceed v r.opened c

/-- What was read when a text ends. -/
def value? (r : Reader) : Option Value :=
  match r.opened, r.place with
  | [], .after v => some v
  | [], .number part written => if part.ends then some (.number written.reverse) else none
  | _, _ => none

end Reader

/-- The value that a JSON text says, if it is one. -/
def read (text : List Char) : Option Value := do (← text.foldlM Reader.step {}).value?

/-- Blanks, a surrogate pair and a number, none of which a document is written with. -/
example : read "\t[\"\\ud83d\\uDE00\\/\" ,null, -0.5E+1\n]".toList
    = some (.list [.text "😀/", .null, .number "-0.5E+1".toList]) := by
  rfl

/-! ## Reading escapes -/

namespace Letters

private theorem hexValue_control : ∀ n < 32,
    Text.hexValue ['0', '0', (n / 16).digitChar] = some (n / 16) ∧
    Text.hexValue ['0', '0', (n / 16).digitChar, (n % 16).digitChar] = some n := by
  decide

/-- A control character is read from its code point. -/
private theorem reads_control {c : Char} (h : c < ' ') (out : List Char) :
    ['\\', 'u', '0', '0', (c.toNat / 16).digitChar, (c.toNat % 16).digitChar].foldlM step
        ⟨out, .plain⟩ = some ⟨c :: out, .plain⟩ := by
  obtain ⟨hthree, hfour⟩ := hexValue_control c.toNat h
  have hvalid : c.toNat.isValidChar := c.valid
  have hzero : Text.hexValue ['0'] = some 0 := rfl
  have hzeros : Text.hexValue ['0', '0'] = some 0 := rfl
  simp [step, endCode, push, hzero, hzeros, hthree, hfour, hvalid]

theorem reads_escapeChar (c : Char) (out : List Char) :
    (escapeChar c).foldlM step ⟨out, .plain⟩ = some ⟨c :: out, .plain⟩ := by
  unfold escapeChar
  split
  next h =>
    have hc : c = '"' ∨ c = '\\' := by simpa using h
    rcases hc with rfl | rfl <;> rfl
  next hmark =>
  split
  next h => rw [h]; rfl
  split
  next h => rw [h]; rfl
  split
  next h => rw [h]; rfl
  split
  next h => rw [h]; rfl
  split
  next h => rw [h]; rfl
  split
  next h => exact reads_control h out
  next h =>
    rw [Bool.or_eq_true, decide_eq_true_eq, decide_eq_true_eq, not_or] at hmark
    simp [step, push, hmark, h]

theorem reads_escaped (cs out : List Char) :
    (cs.flatMap escapeChar).foldlM step ⟨out, .plain⟩ = some ⟨cs.reverse ++ out, .plain⟩ := by
  induction cs generalizing out with
  | nil => rfl
  | cons c cs ih =>
    rw [List.flatMap_cons, List.foldlM_append, reads_escapeChar, Option.bind_eq_bind,
      Option.bind_some, ih]
    simp

end Letters

/-! ## Reading written values -/

namespace Reader

/-- The characters lead the reader from one state to another. -/
def Reads (r : Reader) (cs : List Char) (r' : Reader) : Prop := cs.foldlM step r = some r'

theorem Reads.append {r s t : Reader} {xs ys : List Char} (hx : Reads r xs s)
    (hy : Reads s ys t) : Reads r (xs ++ ys) t := by
  rw [Reads, List.foldlM_append, hx]
  exact hy

theorem Reads.cons {r s t : Reader} {c : Char} {cs : List Char} (hc : r.step c = some s)
    (hcs : Reads s cs t) : Reads r (c :: cs) t := by
  rw [Reads, List.foldlM_cons, hc]
  exact hcs

theorem reads_nil (r : Reader) : Reads r [] r := rfl

/-- Where a blank is skipped, a new line with its indentation is. -/
theorem reads_newLine {r : Reader} (h : ∀ c, isBlank c → r.step c = some r) (depth : Nat) :
    Reads r (newLine depth) r := by
  have hblanks : ∀ n, Reads r (List.replicate n ' ') r := by
    intro n
    induction n with
    | zero => exact reads_nil r
    | succ n ih => exact .cons (h ' ' (by decide)) ih
  exact .cons (h '\n' (by decide)) (hblanks _)

/-- Inside a text the reader does what its letters do. -/
theorem reads_letters (done? : Option (List (String × Value))) (opened : List Frame)
    {cs : List Char} {l l' : Letters} (h : cs.foldlM Letters.step l = some l') :
    Reads ⟨.text done? l, opened⟩ cs ⟨.text done? l', opened⟩ := by
  induction cs generalizing l with
  | nil =>
    obtain rfl := Option.some.inj h
    exact reads_nil _
  | cons c cs ih =>
    obtain ⟨m, hm, h⟩ := Option.bind_eq_some_iff.mp h
    have hstep : step ⟨.text done? l, opened⟩ c = some ⟨.text done? m, opened⟩ := by
      simp only [step, hm]
    exact .cons hstep (ih h)

/-- A written text is read up to its closing quote, whatever its opening one led to. -/
theorem reads_writeText {r : Reader} {done? : Option (List (String × Value))}
    {opened : List Frame} (h : r.step '"' = some ⟨.text done? {}, opened⟩) (s : String) :
    Reads r (writeText s) (endText done? ⟨s.toList.reverse, .plain⟩ opened) := by
  have hletters := reads_letters done? opened (Letters.reads_escaped s.toList [])
  rw [List.append_nil] at hletters
  have hend : step ⟨.text done? ⟨s.toList.reverse, .plain⟩, opened⟩ '"'
      = some (endText done? ⟨s.toList.reverse, .plain⟩ opened) := rfl
  exact .append (.cons h hletters) (.cons hend (reads_nil _))

/-- A name is read up to where its value must come. -/
theorem reads_name {r : Reader} {done : List (String × Value)} {opened : List Frame}
    (h : r.step '"' = some ⟨.text (some done) {}, opened⟩) (name : String) :
    Reads r (writeText name ++ [':', ' ']) ⟨.value, .field done name :: opened⟩ := by
  have hname := reads_writeText h name
  simp only [endText, List.reverse_reverse, String.ofList_toList] at hname
  exact .append hname rfl

/-- A written value starts with a mark of its own, so it may follow an opening bracket. -/
theorem write_eq_cons (v : Json) (depth : Nat) :
    ∃ c rest, v.write depth = c :: rest ∧ isBlank c = false ∧ c ≠ ']' := by
  cases v with
  | text s => exact ⟨'"', _, rfl, by decide, by decide⟩
  | bool b =>
    cases b with
    | false => exact ⟨'f', "alse".toList, rfl, by decide, by decide⟩
    | true => exact ⟨'t', "rue".toList, rfl, by decide, by decide⟩
  | list items =>
    cases items with
    | nil => exact ⟨'[', _, by rw [write], by decide, by decide⟩
    | cons x xs => exact ⟨'[', _, by rw [write]; rfl, by decide, by decide⟩
  | record fields =>
    cases fields with
    | nil => exact ⟨'\x7b', _, by rw [write], by decide, by decide⟩
    | cons f fields => exact ⟨'\x7b', _, by rw [write]; rfl, by decide, by decide⟩

theorem reads_first {v : Json} {depth : Nat} {opened : List Frame} {r : Reader}
    (h : Reads ⟨.value, .items [] :: opened⟩ (v.write depth) r) :
    Reads ⟨.firstItem, opened⟩ (v.write depth) r := by
  obtain ⟨c, rest, hv, hblank, hend⟩ := write_eq_cons v depth
  have hstep : step ⟨.firstItem, opened⟩ c = step ⟨.value, .items [] :: opened⟩ c := by
    simp [step, hblank, hend]
  rw [hv, Reads, List.foldlM_cons] at h ⊢
  rw [hstep]
  exact h

mutual

/-- **A written value is read**, whatever is open around it. -/
theorem reads_write (v : Json) (depth : Nat) (opened : List Frame) :
    Reads ⟨.value, opened⟩ (v.write depth) ⟨.after (said v), opened⟩ := by
  match v with
  | .text s =>
    have hquote : step ⟨.value, opened⟩ '"' = some ⟨.text none {}, opened⟩ := rfl
    have htext := reads_writeText hquote s
    rw [write, said]
    simpa [endText] using htext
  | .bool b => cases b <;> rfl
  | .list [] => rfl
  | .list (x :: xs) =>
    have hblank : ∀ c, isBlank c → step ⟨.firstItem, opened⟩ c = some ⟨.firstItem, opened⟩ :=
      fun c hc => by simp [step, hc]
    have hopen : Reads ⟨.value, opened⟩ ('[' :: newLine (depth + 1)) ⟨.firstItem, opened⟩ :=
      .cons rfl (reads_newLine hblank (depth + 1))
    have hfirst := reads_first (reads_write x (depth + 1) (.items [] :: opened))
    exact .append (.append hopen hfirst) (reads_writeItems xs depth (said x) [] opened)
  | .record [] => rfl
  | .record ((k, x) :: fields) =>
    have hblank : ∀ c, isBlank c → step ⟨.firstName, opened⟩ c = some ⟨.firstName, opened⟩ :=
      fun c hc => by simp [step, hc]
    have hopen : Reads ⟨.value, opened⟩ ('\x7b' :: newLine (depth + 1)) ⟨.firstName, opened⟩ :=
      .cons rfl (reads_newLine hblank (depth + 1))
    have hquote : step ⟨.firstName, opened⟩ '"' = some ⟨.text (some []) {}, opened⟩ := rfl
    have hname := hopen.append (reads_name hquote k)
    have hvalue := hname.append (reads_write x (depth + 1) (.field [] k :: opened))
    have hfields := hvalue.append (reads_writeFields fields depth k (said x) [] opened)
    rw [write, said, saidFields]
    simpa using hfields

theorem reads_writeItems (xs : List Json) (depth : Nat) (v : Value) (done : List Value)
    (opened : List Frame) :
    Reads ⟨.after v, .items done :: opened⟩ (writeItems depth xs)
      ⟨.after (.list ((v :: done).reverse ++ saidItems xs)), opened⟩ := by
  match xs with
  | [] =>
    have hblank : ∀ c, isBlank c →
        step ⟨.after v, .items done :: opened⟩ c = some ⟨.after v, .items done :: opened⟩ :=
      fun c hc => by simp [step, proceed, hc]
    have hend : step ⟨.after v, .items done :: opened⟩ ']'
        = some ⟨.after (.list (v :: done).reverse), opened⟩ := rfl
    rw [saidItems, List.append_nil]
    exact .append (reads_newLine hblank depth) (.cons hend (reads_nil _))
  | x :: xs =>
    have hblank : ∀ c, isBlank c → step ⟨.value, .items (v :: done) :: opened⟩ c
        = some ⟨.value, .items (v :: done) :: opened⟩ :=
      fun c hc => by simp [step, hc]
    have hcomma : Reads ⟨.after v, .items done :: opened⟩ (',' :: newLine (depth + 1))
        ⟨.value, .items (v :: done) :: opened⟩ :=
      .cons rfl (reads_newLine hblank (depth + 1))
    have hitem := hcomma.append (reads_write x (depth + 1) (.items (v :: done) :: opened))
    have hrest := hitem.append (reads_writeItems xs depth (said x) (v :: done) opened)
    rw [writeItems, saidItems]
    simpa using hrest

theorem reads_writeFields (fields : List (String × Json)) (depth : Nat) (name : String) (v : Value)
    (done : List (String × Value)) (opened : List Frame) :
    Reads ⟨.after v, .field done name :: opened⟩ (writeFields depth fields)
      ⟨.after (.record (((name, v) :: done).reverse ++ saidFields fields)), opened⟩ := by
  match fields with
  | [] =>
    have hblank : ∀ c, isBlank c → step ⟨.after v, .field done name :: opened⟩ c
        = some ⟨.after v, .field done name :: opened⟩ :=
      fun c hc => by simp [step, proceed, hc]
    have hend : step ⟨.after v, .field done name :: opened⟩ '\x7d'
        = some ⟨.after (.record ((name, v) :: done).reverse), opened⟩ := rfl
    rw [saidFields, List.append_nil]
    exact .append (reads_newLine hblank depth) (.cons hend (reads_nil _))
  | (k, x) :: fields =>
    have hblank : ∀ c, isBlank c → step ⟨.name ((name, v) :: done), opened⟩ c
        = some ⟨.name ((name, v) :: done), opened⟩ :=
      fun c hc => by simp [step, hc]
    have hcomma : Reads ⟨.after v, .field done name :: opened⟩ (',' :: newLine (depth + 1))
        ⟨.name ((name, v) :: done), opened⟩ :=
      .cons rfl (reads_newLine hblank (depth + 1))
    have hquote : step ⟨.name ((name, v) :: done), opened⟩ '"'
        = some ⟨.text (some ((name, v) :: done)) {}, opened⟩ := rfl
    have hname := hcomma.append (reads_name hquote k)
    have hvalue := hname.append
      (reads_write x (depth + 1) (.field ((name, v) :: done) k :: opened))
    have hrest := hvalue.append
      (reads_writeFields fields depth k (said x) ((name, v) :: done) opened)
    rw [writeFields, saidFields]
    simpa using hrest

end

end Reader

/-- **A document is read as the value that it was written from.** -/
theorem read_document (v : Json) : read (document v).toList = some (said v) := by
  have hend : Reader.Reads ⟨.after (said v), []⟩ ['\n'] ⟨.after (said v), []⟩ := rfl
  have hread : Reader.Reads {} (v.write 0 ++ ['\n']) ⟨.after (said v), []⟩ :=
    (Reader.reads_write v 0 []).append hend
  rw [Reader.Reads] at hread
  rw [read, document, String.toList_ofList, hread]
  rfl

end TagQuery.Json
