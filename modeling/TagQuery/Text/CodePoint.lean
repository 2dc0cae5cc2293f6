/-!
Characters by the hexadecimal digits of their code points.
-/

namespace TagQuery.Text

def hexValue (digits : List Char) : Option Nat :=
  digits.foldlM (fun n c =>
    if c.isDigit then some (16 * n + (c.toNat - '0'.toNat))
    else if 'a' ≤ c ∧ c ≤ 'f' then some (16 * n + (c.toNat - 'a'.toNat + 10))
    else if 'A' ≤ c ∧ c ≤ 'F' then some (16 * n + (c.toNat - 'A'.toNat + 10))
    else none) 0

/-- The character with a code point; surrogates have none. -/
def codePoint (digits : List Char) : Option Char := do
  let n ← hexValue digits
  if n.isValidChar then some (Char.ofNat n) else none

end TagQuery.Text
