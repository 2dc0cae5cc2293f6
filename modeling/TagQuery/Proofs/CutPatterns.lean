import TagQuery.Pattern.RegexSource
import TagQuery.Proofs.LoweredPatterns

/-!
The expression of a pattern, made in two passes. The pattern is cut at its markers for a
run, each piece is cut at its markers for one character, and what is left is escaped; then
the pieces are joined again, by what the markers mean in expressions. No two markers
overlap, so this is the expression that one reading of the pattern gives.

* `joined_append`: a text joined from its pieces grows in front as its first piece does;
* `cutSource_eq`: **both ways to the expression are the same**.
-/

namespace TagQuery

/-! ## Pieces -/

/-- The pieces of a text between the places where a dollar and the mark stand. -/
def cutAt (mark : Char) : List Char → List (List Char)
  | [] => [[]]
  | [c] => [[c]]
  | c :: d :: rest =>
    if c = '$' ∧ d = mark then [] :: cutAt mark rest
    else (cutAt mark (d :: rest)).modifyHead (c :: ·)

theorem cutAt_marker (mark : Char) (rest : List Char) :
    cutAt mark ('$' :: mark :: rest) = [] :: cutAt mark rest := by
  simp [cutAt]

theorem cutAt_cons {mark c : Char} {rest : List Char} (h : c = '$' → rest.head? ≠ some mark) :
    cutAt mark (c :: rest) = (cutAt mark rest).modifyHead (c :: ·) := by
  cases rest with
  | nil => rfl
  | cons d rest =>
    have hmarker : ¬(c = '$' ∧ d = mark) := by
      rintro ⟨hc, rfl⟩
      exact h hc rfl
    rw [cutAt, if_neg hmarker]

/-- There is always a first piece, and the text starts with it. -/
theorem exists_first_piece (mark : Char) (cs : List Char) :
    ∃ first others, cutAt mark cs = first :: others ∧ first <+: cs := by
  fun_induction cutAt mark cs with
  | case1 => exact ⟨[], [], rfl, List.nil_prefix⟩
  | case2 c => exact ⟨[c], [], rfl, List.prefix_rfl⟩
  | case3 c d rest h ih => exact ⟨[], _, rfl, List.nil_prefix⟩
  | case4 c d rest h ih =>
    obtain ⟨first, others, hcut, hprefix⟩ := ih
    rw [hcut]
    exact ⟨c :: first, others, rfl, (List.prefix_cons_inj c).mpr hprefix⟩

/-! ## Pieces put together again -/

/-- What becomes of the pieces of a text, with `between` in the place of the markers. -/
def joined (mark : Char) (between : List Char) (f : List Char → List Char) (cs : List Char) :
    List Char :=
  between.intercalate ((cutAt mark cs).map f)

section Joined

variable {mark : Char} {between : List Char} {f : List Char → List Char}

theorem joined_marker (rest : List Char) : joined mark between f ('$' :: mark :: rest)
    = f [] ++ between ++ joined mark between f rest := by
  obtain ⟨first, others, hcut, _⟩ := exists_first_piece mark rest
  rw [joined, joined, cutAt_marker, hcut, List.map_cons, List.map_cons,
    List.intercalate_cons_cons]

/-- The text grows in front as its first piece does. -/
theorem joined_append (xs : List Char) {out rest : List Char}
    (hcut : cutAt mark (xs ++ rest) = (cutAt mark rest).modifyHead (xs ++ ·))
    (hf : ∀ first, first <+: rest → f (xs ++ first) = out ++ f first) :
    joined mark between f (xs ++ rest) = out ++ joined mark between f rest := by
  obtain ⟨first, others, hfirst, hprefix⟩ := exists_first_piece mark rest
  rw [joined, joined, hcut, hfirst, List.modifyHead_cons, List.map_cons, List.map_cons,
    hf first hprefix]
  cases others with
  | nil => simp
  | cons second others => simp [List.intercalate_cons_cons]

end Joined

/-! ## Expressions -/

/-- The expression of a piece without markers. -/
def escapeFragment (fragment : List Char) : List Char :=
  fragment.flatMap fun c => if Token.regexSpecials.contains c then ['\\', c] else [c]

/-- The expression of a piece without markers for a run. -/
def pieceSource : List Char → List Char := joined '?' Token.anyClass escapeFragment

/-- The expression of a pattern, made in two passes. -/
def cutSource : List Char → List Char := joined '*' (Token.anyClass ++ ['*']) pieceSource

theorem pieceSource_one (rest : List Char) :
    pieceSource ('$' :: '?' :: rest) = Token.anyClass ++ pieceSource rest :=
  joined_marker rest

theorem pieceSource_cons {c : Char} {rest : List Char} (h : c = '$' → rest.head? ≠ some '?') :
    pieceSource (c :: rest) = (Token.char c).regex ++ pieceSource rest :=
  joined_append [c] (cutAt_cons h) fun _ _ => rfl

theorem cutSource_run (rest : List Char) :
    cutSource ('$' :: '*' :: rest) = Token.run.regex ++ cutSource rest :=
  joined_marker rest

theorem cutSource_one (rest : List Char) :
    cutSource ('$' :: '?' :: rest) = Token.one.regex ++ cutSource rest := by
  refine joined_append ['$', '?'] ?_ fun first _ => pieceSource_one first
  rw [List.cons_append, cutAt_cons (by simp), List.singleton_append, cutAt_cons (by simp),
    List.modifyHead_modifyHead]
  rfl

theorem cutSource_cons {c : Char} {rest : List Char}
    (h : c = '$' → rest.head? ≠ some '*' ∧ rest.head? ≠ some '?') :
    cutSource (c :: rest) = (Token.char c).regex ++ cutSource rest := by
  refine joined_append [c] (cutAt_cons fun hc => (h hc).1) ?_
  intro first hprefix
  apply pieceSource_cons
  -- A first piece that starts with the mark is the start of a text that does.
  intro hc hmark
  obtain ⟨tail, rfl⟩ := List.head?_eq_some_iff.mp hmark
  obtain ⟨after, rfl⟩ := hprefix
  exact (h hc).2 rfl

/-- **Cutting a pattern at its markers leads to the expression of its tokens.** -/
theorem cutSource_eq (pattern : List Char) : cutSource pattern = regexSource pattern := by
  induction pattern using Token.read_induction with
  | nil => rfl
  | run rest ih =>
    rw [cutSource_run, ih, regexSource, regexSource, Token.read_run, List.flatMap_cons]
  | one rest ih =>
    rw [cutSource_one, ih, regexSource, regexSource, Token.read_one, List.flatMap_cons]
  | char c rest hchar ih =>
    rw [cutSource_cons hchar, ih, regexSource, regexSource, Token.read_char c rest hchar,
      List.flatMap_cons]

end TagQuery
