import TagQuery.Proofs.CutPatterns
import TagQuery.Proofs.Regex

/-!
The expression of a pattern, read item by item. An item is the class of the characters
inside a line, with a star after it or without, or a single character, which has a
backslash before it exactly if it is special.

* `Lexeme.text_append_inj`: how a text starts tells its first item, since no item starts
  with a star;
* `Lexeme.written_injective`: so no text is written by two lists of items;
* `Token.leftInverse_lexeme`: each token has an item of its own;
* `regexSource_read_once`: **an expression is written by the items of the pattern's tokens
  and by no others**. So patterns have different expressions, and a plain character of a
  pattern is never taken for a sign.
-/

namespace TagQuery

/-- What expressions of patterns are written with. -/
inductive Lexeme where
  | anyRun
  | any
  | escaped (c : Char) (special : c ∈ Token.regexSpecials)
  | plain (c : Char) (ordinary : c ∉ Token.regexSpecials)
  deriving DecidableEq

namespace Lexeme

def text : Lexeme → List Char
  | anyRun => Token.anyClass ++ ['*']
  | any => Token.anyClass
  | escaped c _ => ['\\', c]
  | plain c _ => [c]

/-- What an item stands for, whether it has a backslash or not. -/
def token : Lexeme → Token
  | anyRun => .run
  | any => .one
  | escaped c _ | plain c _ => .char c

/-- Items written one after the other. -/
def written (items : List Lexeme) : List Char := items.flatMap text

@[simp] theorem written_nil : written [] = [] := rfl

@[simp] theorem written_cons (i : Lexeme) (items : List Lexeme) :
    written (i :: items) = i.text ++ written items := rfl

/-! ## How a text starts -/

def first : Lexeme → Char
  | anyRun | any => '['
  | escaped _ _ => '\\'
  | plain c _ => c

theorem exists_text_eq (i : Lexeme) : ∃ rest, i.text = i.first :: rest := by
  cases i with
  | anyRun | any | escaped | plain => exact ⟨_, rfl⟩

theorem written_cons_ne_nil (i : Lexeme) (items : List Lexeme) : written (i :: items) ≠ [] := by
  obtain ⟨rest, hrest⟩ := i.exists_text_eq
  rw [written_cons, hrest]
  exact List.cons_ne_nil _ _

theorem first_ne_star (i : Lexeme) : i.first ≠ '*' := by
  cases i with
  | anyRun | any | escaped => simp [first]
  | plain c ordinary =>
    rintro rfl
    exact ordinary (by decide)

theorem head?_written_ne (items : List Lexeme) : (written items).head? ≠ some '*' := by
  cases items with
  | nil => simp
  | cons i items =>
    obtain ⟨rest, hrest⟩ := i.exists_text_eq
    simpa [hrest] using i.first_ne_star

/-- An item that starts as a plain one does is that plain one. -/
theorem eq_plain_of_first {i : Lexeme} {c : Char} (ordinary : c ∉ Token.regexSpecials)
    (h : i.first = c) : i = plain c ordinary := by
  have hspecial : '[' ∈ Token.regexSpecials ∧ '\\' ∈ Token.regexSpecials := by decide
  cases i with
  | anyRun | any => exact absurd (h ▸ hspecial.1) ordinary
  | escaped => exact absurd (h ▸ hspecial.2) ordinary
  | plain d hd =>
    obtain rfl : d = c := h
    rfl

/-- A class with a star is no class before something else. -/
private theorem any_append_ne {xs ys : List Char} (hx : xs.head? ≠ some '*') :
    any.text ++ xs ≠ anyRun.text ++ ys := by
  rw [text, text, List.append_assoc]
  intro h
  rw [List.append_cancel_left h] at hx
  exact hx rfl

/-- Before anything but a star, the first item can be told from the text. -/
theorem text_append_inj {i j : Lexeme} {xs ys : List Char} (hx : xs.head? ≠ some '*')
    (hy : ys.head? ≠ some '*') (h : i.text ++ xs = j.text ++ ys) : i = j ∧ xs = ys := by
  have hfirst : i.first = j.first := by
    obtain ⟨rest, hi⟩ := i.exists_text_eq
    obtain ⟨rest', hj⟩ := j.exists_text_eq
    rw [hi, hj] at h
    exact (List.cons.inj h).1
  cases i with
  | plain c ordinary =>
    obtain rfl := eq_plain_of_first ordinary hfirst.symm
    exact ⟨rfl, List.append_cancel_left h⟩
  | escaped c special =>
    cases j with
    | anyRun | any => exact absurd hfirst (by simp [first])
    | escaped d hd =>
      obtain ⟨rfl, hrest⟩ := List.cons.inj (List.cons.inj h).2
      exact ⟨rfl, hrest⟩
    | plain d hd => exact absurd (eq_plain_of_first hd hfirst) (by simp)
  | any =>
    cases j with
    | any => exact ⟨rfl, List.append_cancel_left h⟩
    | anyRun => exact absurd h (any_append_ne hx)
    | escaped d hd => exact absurd hfirst (by simp [first])
    | plain d hd => exact absurd (eq_plain_of_first hd hfirst) (by simp)
  | anyRun =>
    cases j with
    | anyRun => exact ⟨rfl, List.append_cancel_left h⟩
    | any => exact absurd h.symm (any_append_ne hy)
    | escaped d hd => exact absurd hfirst (by simp [first])
    | plain d hd => exact absurd (eq_plain_of_first hd hfirst) (by simp)

/-- **A text is written by one list of items at most.** -/
theorem written_injective : Function.Injective written := by
  intro items
  induction items with
  | nil =>
    intro items' h
    cases items' with
    | nil => rfl
    | cons j items' => exact absurd h.symm (written_cons_ne_nil j items')
  | cons i items ih =>
    intro items' h
    cases items' with
    | nil => exact absurd h (written_cons_ne_nil i items)
    | cons j items' =>
      obtain ⟨rfl, hrest⟩ := text_append_inj (head?_written_ne items) (head?_written_ne items') h
      rw [ih hrest]

end Lexeme

/-! ## The items of a pattern -/

namespace Token

/-- What a token is written as in an expression. -/
def lexeme : Token → Lexeme
  | char c => if h : c ∈ regexSpecials then .escaped c h else .plain c h
  | one => .any
  | run => .anyRun

theorem text_lexeme (t : Token) : t.lexeme.text = t.regex := by
  cases t with
  | one | run => rfl
  | char c =>
    by_cases h : c ∈ regexSpecials
    · simp [lexeme, regex, Lexeme.text, h]
    · simp [lexeme, regex, Lexeme.text, h]

theorem written_map_lexeme (ts : List Token) :
    Lexeme.written (ts.map lexeme) = ts.flatMap regex := by
  rw [Lexeme.written, List.flatMap_map]
  simp only [text_lexeme]

/-- Each item is that of one token. -/
theorem leftInverse_lexeme : Function.LeftInverse Lexeme.token lexeme := by
  intro t
  cases t with
  | one | run => rfl
  | char c => by_cases h : c ∈ regexSpecials <;> simp [lexeme, Lexeme.token, h]

end Token

/-- **The expression of a pattern is read in one way only**, and item for item as the pattern
is read token for token, although it is made by cutting the pattern twice. Patterns have
different expressions, and to any reader of expressions each plain character of a pattern
is that character. -/
theorem regexSource_read_once :
    cutSource = regexSource ∧
    (∀ pattern items, Lexeme.written items = regexSource pattern ↔
      items = (Token.read pattern).map Token.lexeme) ∧
    Function.Injective regexSource ∧
    ∀ pattern, Regex.read (regexSource pattern) = some ((Token.read pattern).map Token.item) := by
  have hwritten : ∀ pattern,
      Lexeme.written ((Token.read pattern).map Token.lexeme) = regexSource pattern :=
    fun pattern => Token.written_map_lexeme (Token.read pattern)
  refine ⟨funext cutSource_eq, fun pattern items => ?_, fun pattern pattern' h => ?_,
    read_regexSource⟩
  · rw [← hwritten pattern, Lexeme.written_injective.eq_iff]
  · rw [← hwritten pattern, ← hwritten pattern', Lexeme.written_injective.eq_iff] at h
    have htokens := Token.leftInverse_lexeme.injective.list_map h
    exact Token.read_injective htokens

/-- The first star is plain and has a backslash before it, the second one is a sign. -/
example : (Token.read "$?*$$*".toList).map Token.lexeme
    = [.any, .escaped '*' (by decide), .escaped '$' (by decide), .anyRun] := by
  decide

end TagQuery
