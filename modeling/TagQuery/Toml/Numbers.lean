import TagQuery.Toml.Node
import TagQuery.Toml.Strings

/-!
Numbers, dates and times of a document. What a reader leaves of a malformed one
cannot stand after a value, so it is refused there.
-/

namespace TagQuery.Toml

/-- Digits with single underscores between them. -/
def readDigits (isDigit : Char → Bool) : Chars → Option (Chars × Chars)
  | [] => none
  | c :: rest =>
    if isDigit c then some (more [c] rest) else none
where
  more (out : Chars) : Chars → Chars × Chars
    | '_' :: c :: rest => if isDigit c then more (c :: out) rest else (out.reverse, '_' :: c :: rest)
    | c :: rest => if isDigit c then more (c :: out) rest else (out.reverse, c :: rest)
    | [] => (out.reverse, [])

def digitValue (c : Char) : Nat :=
  if c.isDigit then c.toNat - '0'.toNat
  else if c.isLower then c.toNat - 'a'.toNat + 10
  else c.toNat - 'A'.toNat + 10

def digitsValue (base : Nat) (ds : Chars) : Nat := ds.foldl (fun n c => base * n + digitValue c) 0

def isHexDigit (c : Char) : Bool := c.isDigit || ('a' ≤ c && c ≤ 'f') || ('A' ≤ c && c ≤ 'F')

def readSign : Chars → Bool × Chars
  | '-' :: rest => (true, rest)
  | '+' :: rest => (false, rest)
  | cs => (false, cs)

/-- Decimal digits without a zero in front of others. -/
def readDecimal : Chars → Option (Chars × Chars)
  | '0' :: rest => some (['0'], rest)
  | cs => readDigits Char.isDigit cs

/-- Integers have 64 bits. -/
def integerOf (negative : Bool) (n : Nat) : Option Scalar :=
  if negative then if n ≤ Nat.pow 2 63 then some (.integer (-n)) else none
  else if n < Nat.pow 2 63 then some (.integer n) else none

def readFraction : Chars → Option (Chars × Chars)
  | '.' :: rest => readDigits Char.isDigit rest
  | cs => some ([], cs)

/-- The exponent of a float, if there is one. -/
def readExponent : Chars → Option (Option Int × Chars)
  | e :: rest =>
    if e = 'e' || e = 'E' then do
      let (negative, rest) := readSign rest
      let (ds, rest) ← readDigits Char.isDigit rest
      let n : Int := digitsValue 10 ds
      some (some (if negative then -n else n), rest)
    else some (none, e :: rest)
  | [] => some (none, [])

/-- A float that is too large is refused; one that is too small is minus infinity. -/
def floatOf (negative : Bool) (whole fraction : Chars) (e : Int) : Option Scalar :=
  match Decimal.ofDecimal negative (digitsValue 10 (whole ++ fraction)) (e - fraction.length) with
  | .infinite false => none
  | x => some (.float x)

def readUnsigned (negative signed : Bool) : Chars → Option (Scalar × Chars)
  | 'i' :: 'n' :: 'f' :: rest => some (.float (.infinite negative), rest)
  | 'n' :: 'a' :: 'n' :: rest => some (.float .nan, rest)
  | cs => do
    let radix (base : Nat) (isDigit : Char → Bool) (rest : Chars) : Option (Scalar × Chars) := do
      let (ds, rest) ← readDigits isDigit rest
      some (← integerOf false (digitsValue base ds), rest)
    match signed, cs with
    | false, '0' :: 'x' :: rest => radix 16 isHexDigit rest
    | false, '0' :: 'o' :: rest => radix 8 (fun c => '0' ≤ c && c ≤ '7') rest
    | false, '0' :: 'b' :: rest => radix 2 (fun c => c = '0' || c = '1') rest
    | _, _ =>
      let (whole, rest) ← readDecimal cs
      let (fraction, rest) ← readFraction rest
      let (e?, rest) ← readExponent rest
      if fraction.isEmpty && e?.isNone then some (← integerOf negative (digitsValue 10 whole), rest)
      else some (← floatOf negative whole fraction (e?.getD 0), rest)

def readNumber (cs : Chars) : Option (Scalar × Chars) :=
  let (negative, rest) := readSign cs
  readUnsigned negative (cs.head? = some '+' || cs.head? = some '-') rest

/-- A number of exactly `count` digits between two bounds. -/
def readField (count low high : Nat) (cs : Chars) : Option (Nat × Chars) :=
  let ds := cs.take count
  let n := digitsValue 10 ds
  if ds.length = count && ds.all Char.isDigit && low ≤ n && n ≤ high then some (n, cs.drop count)
  else none

def readChar (c : Char) : Chars → Option Chars
  | d :: rest => if c = d then some rest else none
  | [] => none

def daysIn (year month : Nat) : Nat :=
  if month = 2 then
    if year % 4 = 0 && (year % 100 ≠ 0 || year % 400 = 0) then 29 else 28
  else if month = 4 || month = 6 || month = 9 || month = 11 then 30
  else 31

def skipDate (cs : Chars) : Option Chars := do
  let (year, cs) ← readField 4 0 9999 cs
  let (month, cs) ← readField 2 1 12 (← readChar '-' cs)
  let (_, cs) ← readField 2 1 (daysIn year month) (← readChar '-' cs)
  some cs

/-- A time of day, in hours up to `lastHour`. -/
def skipTime (lastHour : Nat) (cs : Chars) : Option Chars := do
  let (_, cs) ← readField 2 0 lastHour cs
  let (_, cs) ← readField 2 0 59 (← readChar ':' cs)
  let (_, cs) ← readField 2 0 60 (← readChar ':' cs)
  match cs with
  | '.' :: c :: rest => some (if c.isDigit then rest.dropWhile Char.isDigit else cs)
  | _ => some cs

def skipOffset : Chars → Option Chars
  | 'Z' :: rest => some rest
  | 'z' :: rest => some rest
  | c :: rest =>
    if c = '+' || c = '-' then do
      let (_, cs) ← readField 2 0 23 rest
      let (_, cs) ← readField 2 0 59 (← readChar ':' cs)
      some cs
    else none
  | [] => none

/-- A date, a time, or both with an optional offset. -/
def skipMoment (cs : Chars) : Option Chars :=
  match skipDate cs with
  | none => skipTime 23 cs
  | some afterDate =>
    match afterDate with
    | c :: rest =>
      if c = 'T' || c = 't' || c = ' ' then
        match skipTime 23 rest with
        | some afterTime => some ((skipOffset afterTime).getD afterTime)
        | none => some afterDate
      else some afterDate
    | [] => some []

/-- A value that starts like a number. -/
def readQuantity (cs : Chars) : Option (Scalar × Chars) :=
  match skipMoment cs with
  | some rest => some (.moment, rest)
  | none => readNumber cs

end TagQuery.Toml
