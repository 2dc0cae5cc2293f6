import TagQuery.Decimal.Binary64

/-!
The shortest decimal of a floating-point number: of the decimals that round to
the number, one with the fewest digits, and of those the nearest.
-/

namespace TagQuery.Decimal

/-- The count of decimal digits of a whole number. -/
def digitCount (n : Nat) : Nat := (Nat.toDigits 10 n).length

/-- The power of ten just above `num / den`. -/
def decimalTop (num den : Nat) : Int :=
  if den ≤ num then digitCount (num / den) else 1 - digitCount ((den - 1) / num)

/-- The decimals that round to `mantissa * 2 ^ exponent` lie between these two
multiples of `2 ^ (exponent - 2)`; the ends are among them if the mantissa is
even. -/
def roundingBounds (mantissa : Nat) (exponent : Int) : Nat × Nat :=
  let below := if mantissa = leadingBit && exponent > -1074 then 1 else 2
  (4 * mantissa - below, 4 * mantissa + 2)

/-- Does `x * 10 ^ place` round to `mantissa * 2 ^ exponent`? -/
def roundsTo (mantissa : Nat) (exponent : Int) (x : Nat) (place : Int) : Bool :=
  let (low, high) := roundingBounds mantissa exponent
  let (a, b) := scaledRatio 10 x 1 (-place)
  let (c, d) := scaledRatio 2 1 1 (exponent - 2)
  let value := a * c
  let unit := b * d
  if mantissa % 2 = 0 then low * unit ≤ value && value ≤ high * unit
  else low * unit < value && value < high * unit

/-- The first grid of decimals, from `place` down, with a neighbour of the number
that rounds to it. Of two such neighbours the nearer is taken, the upper one if
they are equally near. -/
def shortestFrom (mantissa : Nat) (exponent : Int) (place : Int) : Nat → Nat × Int
  | 0 => (0, 0)
  | fuel + 1 =>
    let (n, d) := scaledRatio 2 mantissa 1 (-exponent)
    let (num, den) := scaledRatio 10 n d place
    let low := num / den
    let lowFits := roundsTo mantissa exponent low place
    let highFits := roundsTo mantissa exponent (low + 1) place
    if lowFits && (!highFits || 2 * (num % den) < den) then (low, place)
    else if highFits then (low + 1, place)
    else shortestFrom mantissa exponent (place - 1) fuel

/-- Digits and place of the last one, for a positive number. Seventeen digits
always suffice. -/
def shortest (mantissa : Nat) (exponent : Int) : Nat × Int :=
  let (n, d) := scaledRatio 2 mantissa 1 (-exponent)
  shortestFrom mantissa exponent (decimalTop n d - 1) 17

/-- `digits * 10 ^ place` without an exponent, and with a fraction of at least
one digit. -/
def positional (digits : Nat) (place : Int) : List Char :=
  let ds := Nat.toDigits 10 digits
  if 0 ≤ place then ds ++ List.replicate place.toNat '0' ++ ['.', '0']
  else
    let drop := (-place).toNat
    if drop < ds.length then ds.take (ds.length - drop) ++ '.' :: ds.drop (ds.length - drop)
    else '0' :: '.' :: List.replicate (drop - ds.length) '0' ++ ds

/-- Drops the zeros at the end of the digits. -/
def stripZeros (digits : Nat) (place : Int) : Nat → Nat × Int
  | 0 => (digits, place)
  | fuel + 1 =>
    if digits % 10 = 0 then stripZeros (digits / 10) (place + 1) fuel else (digits, place)

def Binary64.text : Binary64 → String
  | .nan => "NaN"
  | .infinite negative => if negative then "-inf" else "inf"
  | .finite negative mantissa exponent =>
    let sign := if negative then "-" else ""
    if mantissa = 0 then sign ++ "0.0"
    else
      let (digits, place) := shortest mantissa exponent
      let (digits, place) := stripZeros digits place 17
      sign ++ String.ofList (positional digits place)

end TagQuery.Decimal
