/-!
The 64-bit binary floating-point numbers as integers times powers of two, and
the one nearest to a ratio of natural numbers.
-/

namespace TagQuery.Decimal

/-- A finite number is `mantissa * 2 ^ exponent`, with a mantissa below `2 ^ 53`
and an exponent of at least `-1074`. -/
inductive Binary64 where
  | finite (negative : Bool) (mantissa : Nat) (exponent : Int)
  | infinite (negative : Bool)
  | nan
  deriving DecidableEq, Repr

/-- The mantissas of the normal numbers are at least this, and below its double. -/
def leadingBit : Nat := Nat.pow 2 52

/-- `num / den` rounded to a whole number, halves to the even neighbour. -/
def roundHalfEven (num den : Nat) : Nat :=
  let q := num / den
  let twice := 2 * (num % den)
  if twice < den || twice = den && q % 2 = 0 then q else q + 1

/-- `num / (den * base ^ e)` as a ratio of natural numbers. -/
def scaledRatio (base num den : Nat) (e : Int) : Nat × Nat :=
  (num * Nat.pow base (-e).toNat, den * Nat.pow base e.toNat)

/-- The number nearest to `num / den`, both positive. -/
def nearest (negative : Bool) (num den : Nat) : Binary64 :=
  let low : Int := (Nat.log2 num : Int) - Nat.log2 den - 53
  let (n, d) := scaledRatio 2 num den low
  let e := max (if n / d < 2 * leadingBit then low else low + 1) (-1074)
  let (n, d) := scaledRatio 2 num den e
  let m := roundHalfEven n d
  let (m, e) := if m = 2 * leadingBit then (leadingBit, e + 1) else (m, e)
  if e > 971 then .infinite negative else .finite negative m e

/-- The number nearest to `digits * 10 ^ e`. Powers far outside the range are
settled by the count of digits alone. -/
def ofDecimal (negative : Bool) (digits : Nat) (e : Int) : Binary64 :=
  let top := e + (Nat.toDigits 10 digits).length
  if digits = 0 || top < -330 then .finite negative 0 0
  else if top > 310 then .infinite negative
  else
    let (n, d) := scaledRatio 10 digits 1 (-e)
    nearest negative n d

end TagQuery.Decimal
