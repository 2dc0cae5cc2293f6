/-!
Wildcard patterns as tokens. A dollar followed by a star stands for a run of
characters and a dollar followed by a question mark for one character; all else
is plain, single dollars, stars and question marks included. Neither wildcard
takes a line break.
-/

namespace TagQuery

inductive Token where
  | char (c : Char)
  | one
  | run
  deriving DecidableEq, Repr

namespace Token

def readOnto (out : List Token) : List Char → List Token
  | '$' :: '*' :: rest => readOnto (run :: out) rest
  | '$' :: '?' :: rest => readOnto (one :: out) rest
  | c :: rest => readOnto (char c :: out) rest
  | [] => out.reverse

/-- The tokens of a pattern, read from the left. -/
def read (pattern : List Char) : List Token := readOnto [] pattern

private theorem readOnto_append (out done : List Token) (pattern : List Char) :
    readOnto (out ++ done) pattern = done.reverse ++ readOnto out pattern := by
  fun_induction readOnto out pattern with
  | case1 out rest ih => exact ih
  | case2 out rest ih => exact ih
  | case3 out c rest h₁ h₂ ih =>
    rw [readOnto]
    · exact ih
    · exact h₁
    · exact h₂
  | case4 out => simp [readOnto]

private theorem readOnto_eq (out : List Token) (pattern : List Char) :
    readOnto out pattern = out.reverse ++ read pattern := by
  simpa [read] using readOnto_append [] out pattern

@[simp] theorem read_nil : read [] = [] := rfl

@[simp] theorem read_run (rest : List Char) : read ('$' :: '*' :: rest) = run :: read rest := by
  rw [read, readOnto, readOnto_eq]; rfl

@[simp] theorem read_one (rest : List Char) : read ('$' :: '?' :: rest) = one :: read rest := by
  rw [read, readOnto, readOnto_eq]; rfl

theorem read_char (c : Char) (rest : List Char)
    (h : c = '$' → rest.head? ≠ some '*' ∧ rest.head? ≠ some '?') :
    read (c :: rest) = char c :: read rest := by
  rw [read, readOnto, readOnto_eq]
  · rfl
  · rintro tail rfl rfl; simp at h
  · rintro tail rfl rfl; simp at h

def isWildcard : Token → Bool
  | char _ => false
  | one | run => true

def lineBreaks : List Char := ['\n', '\r', '\u0085', '\u2028', '\u2029']

def inLine (c : Char) : Bool := !lineBreaks.contains c

/-- The single characters that a token takes; a run takes any number of them. -/
def takes : Token → Char → Bool
  | char d, c => c = d
  | one, c | run, c => inLine c

end Token

/-- Does the pattern hold a wildcard? -/
def hasWildcard (pattern : String) : Bool :=
  (Token.read pattern.toList).any Token.isWildcard

end TagQuery
