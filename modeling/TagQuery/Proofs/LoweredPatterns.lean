import TagQuery.Pattern.Token
import TagQuery.Proofs.Sigmas

/-!
The tokens of a pattern that is rewritten character by character.

* `Token.read_induction`: induction on a pattern the way its tokens are read;
* `Token.flatMap_source_read`: a pattern is got back from its tokens;
* `Token.rewritten_read`: a pattern that is rewritten but for its signs keeps its
  wildcards where they are;
* `Token.read_flatMap_lowerChar`: the tokens of a lower-cased pattern.
-/

namespace TagQuery.Token

open Text

/-! ## Reading patterns -/

theorem read_induction {motive : List Char → Prop} (nil : motive [])
    (run : ∀ rest, motive rest → motive ('$' :: '*' :: rest))
    (one : ∀ rest, motive rest → motive ('$' :: '?' :: rest))
    (char : ∀ c rest, (c = '$' → rest.head? ≠ some '*' ∧ rest.head? ≠ some '?') →
      motive rest → motive (c :: rest)) (cs : List Char) : motive cs := by
  suffices ∀ out : List Token, motive cs from this []
  intro out
  fun_induction readOnto out cs with
  | case1 out rest ih => exact run rest ih
  | case2 out rest ih => exact one rest ih
  | case3 out c rest hrun hone ih =>
    refine char c rest (fun hc => ⟨?_, ?_⟩) ih
    · intro h
      obtain ⟨tail, rfl⟩ := List.head?_eq_some_iff.mp h
      exact hrun tail hc rfl
    · intro h
      obtain ⟨tail, rfl⟩ := List.head?_eq_some_iff.mp h
      exact hone tail hc rfl
  | case4 out => exact nil

/-- What a token stands for in a pattern. -/
def source : Token → List Char
  | char c => [c]
  | one => ['$', '?']
  | run => ['$', '*']

/-- **A pattern is got back from its tokens.** -/
theorem flatMap_source_read (pattern : List Char) : (read pattern).flatMap source = pattern := by
  induction pattern using read_induction with
  | nil => rfl
  | run rest ih =>
    rw [read_run, List.flatMap_cons, ih]
    rfl
  | one rest ih =>
    rw [read_one, List.flatMap_cons, ih]
    rfl
  | char c rest hchar ih =>
    rw [read_char c rest hchar, List.flatMap_cons, ih]
    rfl

theorem read_injective : Function.Injective read :=
  Function.LeftInverse.injective flatMap_source_read

theorem mem_of_char_mem_read {c : Char} {cs : List Char} (h : char c ∈ read cs) : c ∈ cs := by
  rw [← flatMap_source_read cs]
  exact List.mem_flatMap_of_mem h (List.mem_singleton_self c)

theorem read_plain {c : Char} (h : c ≠ '$') (rest : List Char) :
    read (c :: rest) = char c :: read rest :=
  read_char c rest fun hc => absurd hc h

/-- A text without dollars in front of a pattern is read as its characters. -/
theorem read_append {xs : List Char} (h : '$' ∉ xs) (ys : List Char) :
    read (xs ++ ys) = xs.map char ++ read ys := by
  induction xs with
  | nil => rfl
  | cons x xs ih =>
    rw [List.mem_cons, not_or] at h
    rw [List.cons_append, read_plain (Ne.symm h.1), ih h.2]
    rfl

/-! ## Rewriting one character at a time -/

/-- The same wildcards, or characters that are related. -/
inductive Rewritten (R : Char → Char → Prop) : Token → Token → Prop
  | char {c d : Char} : R c d → Rewritten R (.char c) (.char d)
  | one : Rewritten R .one .one
  | run : Rewritten R .run .run

section Rewriting

variable {R : Char → Char → Prop}

/-- Signs are related to themselves only, so wildcards stay where they are. -/
theorem rewritten_read (hsign : ∀ c d, R c d → IsSign c ∨ IsSign d → d = c) {cs ds : List Char}
    (h : List.Forall₂ R cs ds) : List.Forall₂ (Rewritten R) (read cs) (read ds) := by
  have hhead : ∀ {s : Char}, IsSign s → ∀ {xs ys : List Char}, List.Forall₂ R xs ys →
      ys.head? = some s → xs.head? = some s := by
    intro s hs xs ys hxy hy
    cases hxy with
    | nil => simp at hy
    | cons hcd _ =>
      obtain rfl := Option.some.inj hy
      rw [hsign _ _ hcd (.inr hs)]
      rfl
  induction cs using read_induction generalizing ds with
  | nil =>
    cases h
    exact .nil
  | run rest ih =>
    cases h with
    | cons hdollar h =>
      cases h with
      | cons hstar h =>
        rw [hsign _ _ hdollar (.inl (by decide)), hsign _ _ hstar (.inl (by decide)), read_run,
          read_run]
        exact .cons .run (ih h)
  | one rest ih =>
    cases h with
    | cons hdollar h =>
      cases h with
      | cons hmark h =>
        rw [hsign _ _ hdollar (.inl (by decide)), hsign _ _ hmark (.inl (by decide)), read_one,
          read_one]
        exact .cons .one (ih h)
  | char c rest hchar ih =>
    cases h with
    | @cons _ d _ ds hcd h =>
      have hd : d = '$' → ds.head? ≠ some '*' ∧ ds.head? ≠ some '?' := by
        intro hd
        have hc : c = '$' := by rw [← hd, hsign _ _ hcd (.inr (by rw [hd]; decide))]
        exact ⟨fun hs => (hchar hc).1 (hhead (by decide) h hs),
          fun hs => (hchar hc).2 (hhead (by decide) h hs)⟩
      rw [read_char c rest hchar, read_char d ds hd]
      exact .cons (.char hcd) (ih h)

theorem any_of_rewritten {ts us : List Token} (h : List.Forall₂ (Rewritten R) ts us) :
    us.any isWildcard = ts.any isWildcard := by
  induction h with
  | nil => rfl
  | cons ht _ ih =>
    rw [List.any_cons, List.any_cons, ih]
    cases ht <;> rfl

end Rewriting

/-! ## Lower-casing -/

/-- The tokens that a token becomes: a character its small letter or letters. -/
def lowered : Token → List Token
  | char c => (lowerChar c).map char
  | one => [one]
  | run => [run]

private theorem lowerChar_ne_nil (c : Char) : lowerChar c ≠ [] := by
  unfold lowerChar
  split <;> exact List.cons_ne_nil _ _

private theorem head?_flatMap_lowerChar {s : Char} (hs : IsSign s) (cs : List Char) :
    (cs.flatMap lowerChar).head? = some s ↔ cs.head? = some s := by
  cases cs with
  | nil => simp
  | cons c cs =>
    rw [List.flatMap_cons, List.head?_append_of_ne_nil _ (lowerChar_ne_nil c)]
    constructor
    · intro h
      rw [eq_of_mem_lowerChar_sign hs (List.mem_of_mem_head? h)]
      rfl
    · intro h
      obtain rfl := Option.some.inj h
      rw [lowerChar_sign hs]
      rfl

/-- **The tokens of a lower-cased pattern.** -/
theorem read_flatMap_lowerChar (cs : List Char) :
    read (cs.flatMap lowerChar) = (read cs).flatMap lowered := by
  induction cs using read_induction with
  | nil => rfl
  | run rest ih =>
    have hdollar : lowerChar '$' = ['$'] := lowerChar_sign (by decide)
    have hstar : lowerChar '*' = ['*'] := lowerChar_sign (by decide)
    simp [hdollar, hstar, ih, lowered]
  | one rest ih =>
    have hdollar : lowerChar '$' = ['$'] := lowerChar_sign (by decide)
    have hmark : lowerChar '?' = ['?'] := lowerChar_sign (by decide)
    simp [hdollar, hmark, ih, lowered]
  | char c rest hchar ih =>
    rw [read_char c rest hchar, List.flatMap_cons, List.flatMap_cons, ← ih]
    by_cases hc : c = '$'
    · subst hc
      have hdollar : lowerChar '$' = ['$'] := lowerChar_sign (by decide)
      rw [lowered, hdollar, List.singleton_append, read_char]
      · rfl
      · intro _
        rw [ne_eq, ne_eq, head?_flatMap_lowerChar (by decide), head?_flatMap_lowerChar (by decide)]
        exact hchar rfl
    · have hdollar : '$' ∉ lowerChar c := fun h => hc (eq_of_mem_lowerChar_sign (by decide) h).symm
      rw [read_append hdollar, lowered]

theorem any_lowered (ts : List Token) :
    (ts.flatMap lowered).any isWildcard = ts.any isWildcard := by
  rw [List.any_flatMap]
  congr 1
  funext t
  cases t <;> simp [lowered, isWildcard]

end TagQuery.Token
