import TagQuery.Pattern.Token

/-!
Finding a list of tokens anywhere in a text. For the tokens from some point on,
a row of marks says of each place in the text whether they match from there; the
rows are computed from the last token to the first. A row leaves out the places
in front that the tokens before it take up, and those at the end that leave no
room for the tokens after it. By `occur_iff` the marks tell what `matchStart`
tells of every place.
-/

namespace TagQuery.Token

/-- The row of the tokens from `t` on, for the places from the start of the text
on. `after` is the row of the tokens after `t`, for the places that they may
start at: from the same one after a run, from the next one otherwise. -/
def row (t : Token) (text : List Char) (after : List Bool) : List Bool :=
  match t with
  | run =>
    (text.zip after).foldr (fun (c, here) marks => (here || inLine c && marks.headD false) :: marks)
      (after.drop text.length)
  | _ => List.zipWith (fun c next => t.takes c && next) text after

/-- Puts the tokens, last token first, before the parts of the text that they may
start in, and gives the part that is left. -/
def place (out : List (Token × List Char)) : List Token → List Char →
    List (Token × List Char) × List Char
  | [], text => (out, text)
  | run :: ts, text => place ((run, text) :: out) ts text
  | t :: ts, text => place ((t, text) :: out) ts text.tail

def firstRow (placed : List (Token × List Char) × List Char) : List Bool :=
  placed.1.foldl (fun after (t, text) => t.row text after)
    (List.replicate (placed.2.length + 1) true)

/-- Do the tokens match some part of the text? -/
def occur (ts : List Token) (text : List Char) : Bool := (firstRow (place [] ts text)).any id

/-- Do the tokens match some start of the text? What a row answers for many places
at once. -/
def matchStart : List Token → List Char → Bool
  | [], _ => true
  | run :: ts, [] => matchStart ts []
  | run :: ts, c :: text => matchStart ts (c :: text) || inLine c && matchStart (run :: ts) text
  | _ :: _, [] => false
  | t :: ts, c :: text => t.takes c && matchStart ts text

/-- The row of all tokens, by recursion on them. -/
def starts : List Token → List Char → List Bool
  | [], text => List.replicate (text.length + 1) true
  | run :: ts, text => run.row text (starts ts text)
  | t :: ts, text => t.row text (starts ts text.tail)

private theorem firstRow_place (out : List (Token × List Char)) (ts : List Token)
    (text : List Char) :
    firstRow (place out ts text)
      = out.foldl (fun after (t, text) => t.row text after) (starts ts text) := by
  fun_induction place out ts text with
  | case1 out text => rfl
  | case2 out ts text ih => rw [ih, List.foldl_cons, starts]
  | case3 out t ts text h ih => rw [ih, List.foldl_cons, starts]; exact h

/-- Marks for the places of a text. The places that they leave out get a no. -/
def Tells (f : List Char → Bool) : List Bool → List Char → Prop
  | [], text => ∀ rest, rest <:+ text → f rest = false
  | b :: marks, [] => b = f [] ∧ marks = []
  | b :: marks, c :: text => b = f (c :: text) ∧ Tells f marks text

private theorem tells_replicate (text : List Char) :
    Tells (fun _ => true) (List.replicate (text.length + 1) true) text := by
  induction text with
  | nil => simp [Tells]
  | cons c text ih => exact ⟨rfl, ih⟩

private theorem tells_zipWith (takes : Char → Bool) (f : List Char → Bool) (text : List Char)
    (marks : List Bool) (h : Tells f marks text.tail) :
    Tells (fun rest => rest.head?.any takes && f rest.tail)
      (List.zipWith (fun c next => takes c && next) text marks) text := by
  induction text generalizing marks with
  | nil => simp [Tells]
  | cons c text ih =>
    cases marks with
    | nil =>
      intro rest hr
      cases rest with
      | nil => rfl
      | cons d rest =>
        have hs : rest <:+ text := by
          rcases List.suffix_cons_iff.1 hr with he | hs
          · exact (List.cons.inj he).2 ▸ List.suffix_rfl
          · exact (List.suffix_cons d rest).trans hs
        simp [show f rest = false from h rest hs]
    | cons b marks =>
      cases text with
      | nil =>
        obtain ⟨rfl, rfl⟩ := h
        exact ⟨rfl, by simp [Tells]⟩
      | cons d text =>
        obtain ⟨rfl, h⟩ := h
        exact ⟨rfl, ih marks h⟩

private theorem headD_of_tells {f : List Char → Bool} {text : List Char} {marks : List Bool}
    (h : Tells f marks text) : marks.headD false = f text := by
  cases marks with
  | nil => exact (h text List.suffix_rfl).symm
  | cons b marks => cases text <;> exact h.1

private theorem matchStart_run_eq_false {ts : List Token} (text : List Char)
    (h : ∀ rest, rest <:+ text → matchStart ts rest = false) :
    matchStart (run :: ts) text = false := by
  induction text with
  | nil => rw [matchStart]; exact h [] List.suffix_rfl
  | cons c text ih =>
    rw [matchStart, h _ List.suffix_rfl,
      ih fun rest hr => h rest (hr.trans (List.suffix_cons c text))]
    simp

private theorem tells_run (ts : List Token) (text : List Char) (marks : List Bool)
    (h : Tells (matchStart ts) marks text) :
    Tells (matchStart (run :: ts)) (run.row text marks) text := by
  induction text generalizing marks with
  | nil =>
    cases marks with
    | nil =>
      intro rest hr
      exact matchStart_run_eq_false rest fun r hs => h r (hs.trans hr)
    | cons b marks =>
      obtain ⟨rfl, rfl⟩ := h
      exact ⟨by rw [matchStart], rfl⟩
  | cons c text ih =>
    cases marks with
    | nil =>
      intro rest hr
      exact matchStart_run_eq_false rest fun r hs => h r (hs.trans hr)
    | cons b marks =>
      obtain ⟨rfl, h⟩ := h
      have hm := ih marks h
      refine ⟨?_, hm⟩
      rw [matchStart, ← headD_of_tells hm]
      rfl

private theorem matchStart_cons_eq {t : Token} (h : t ≠ run) (ts : List Token) :
    matchStart (t :: ts) = fun rest => rest.head?.any t.takes && matchStart ts rest.tail := by
  funext rest
  cases t with
  | run => exact absurd rfl h
  | _ => cases rest <;> simp [matchStart]

theorem tells_starts (ts : List Token) (text : List Char) :
    Tells (matchStart ts) (starts ts text) text := by
  induction ts generalizing text with
  | nil =>
    have : matchStart [] = fun _ => true := by funext rest; rw [matchStart]
    rw [this]
    exact tells_replicate text
  | cons t ts ih =>
    cases t with
    | run => exact tells_run ts text _ (ih text)
    | one => rw [matchStart_cons_eq (by simp)]; exact tells_zipWith _ _ text _ (ih text.tail)
    | char d => rw [matchStart_cons_eq (by simp)]; exact tells_zipWith _ _ text _ (ih text.tail)

theorem any_of_tells {f : List Char → Bool} {text : List Char} {marks : List Bool}
    (h : Tells f marks text) :
    marks.any id = true ↔ ∃ rest, rest <:+ text ∧ f rest = true := by
  induction text generalizing marks with
  | nil =>
    cases marks with
    | nil => simpa [Tells] using h
    | cons b marks =>
      obtain ⟨rfl, rfl⟩ := h
      simp
  | cons c text ih =>
    cases marks with
    | nil => simpa [Tells] using h
    | cons b marks =>
      obtain ⟨rfl, h⟩ := h
      simp only [List.any_cons, id_eq, Bool.or_eq_true, ih h, List.suffix_cons_iff]
      constructor
      · rintro (h | ⟨rest, hs, h⟩)
        · exact ⟨_, Or.inl rfl, h⟩
        · exact ⟨rest, Or.inr hs, h⟩
      · rintro ⟨rest, rfl | hs, h⟩
        · exact Or.inl h
        · exact Or.inr ⟨rest, hs, h⟩

/-- Tokens occur in a text exactly if they match a start of one of its tails. -/
theorem occur_iff (ts : List Token) (text : List Char) :
    occur ts text = true ↔ ∃ rest, rest <:+ text ∧ matchStart ts rest = true := by
  rw [occur, firstRow_place]
  exact any_of_tells (tells_starts ts text)

end TagQuery.Token
