import TagQuery.Output.Report

/-!
Colour and the text under it. A coloured text is a plain one with escape sequences in
between, so dropping the sequences gives the plain text back, unless it has escape
characters of its own.

* `bare`: a text without its sequences;
* `Fades`: what is written in colour or without, and differs in sequences only; such texts
  are put together from `fades_const`, `fades_paint`, `Fades.append` and `fades_flatMap`;
* `text_false`: a query without colour, by the written forms of its components;
* `bare_text`: **colour is all that dropping the sequences takes away, exactly if no string
  of the query has an escape character.**
-/

namespace TagQuery

/-- A text without its escape sequences, of which each ends at the next `m`. Is the start of
the text inside one? -/
def bare (inside : Bool) : List Char → List Char
  | [] => []
  | c :: cs =>
    if inside then bare (c ≠ 'm') cs
    else if c = '\x1b' then bare true cs
    else c :: bare false cs

/-- The strings that a component is made of. -/
def Component.strings : Component → List String
  | term t => t.pieces
  | filter f => f.name :: f.tag.pieces

def ParsedQuery.IsEscapeless (p : ParsedQuery) : Prop :=
  '\x1b' ∉ p.query.toList ∧ ∀ c ∈ p.components, ∀ s ∈ c.strings, '\x1b' ∉ s.toList

/-! ## Texts without their sequences -/

theorem escape_notMem_bare (inside : Bool) (cs : List Char) : '\x1b' ∉ bare inside cs := by
  induction cs generalizing inside with
  | nil => simp [bare]
  | cons c cs ih =>
    rw [bare]
    split
    · exact ih _
    · split
      next => exact ih true
      next hc => exact List.not_mem_cons_of_ne_of_not_mem (Ne.symm hc) (ih false)

theorem bare_append_of_notMem {cs : List Char} (h : '\x1b' ∉ cs) (rest : List Char) :
    bare false (cs ++ rest) = cs ++ bare false rest := by
  induction cs with
  | nil => rfl
  | cons c cs ih =>
    obtain ⟨hc, hcs⟩ := not_or.mp (mt List.mem_cons.mpr h)
    rw [List.cons_append, bare, if_neg Bool.false_ne_true, if_neg (Ne.symm hc), ih hcs,
      List.cons_append]

theorem bare_reset_append (rest : List Char) : bare false (Style.reset ++ rest) = bare false rest :=
  rfl

/-- All that a style is put on by are sequences. -/
theorem bare_on_append (s : Style) (rest : List Char) :
    bare false (s.on ++ rest) = bare false rest := by
  obtain ⟨color?, bold, dimmed⟩ := s
  cases bold <;> cases dimmed <;> rcases color? with _ | _ | _ | _ <;> rfl

/-! ## What fades -/

/-- What is written with colour or without, and becomes plain when its sequences are dropped,
whatever is written after it. -/
def Fades (text : Bool → List Char) : Prop :=
  ∀ rest, bare false (text true ++ rest) = text false ++ bare false rest

theorem fades_const {cs : List Char} (h : '\x1b' ∉ cs) : Fades fun _ => cs :=
  fun rest => bare_append_of_notMem h rest

theorem fades_paint (s : Style) {cs : List Char} (h : '\x1b' ∉ cs) :
    Fades fun color => s.paint color cs := by
  intro rest
  have hreset : bare false (Style.reset ++ rest) = bare false rest := bare_reset_append rest
  simp only [Style.paint, if_true, Bool.false_eq_true, if_false, List.append_assoc]
  rw [bare_on_append, bare_append_of_notMem h, hreset]

theorem Fades.append {first second : Bool → List Char} (hfirst : Fades first)
    (hsecond : Fades second) : Fades fun color => first color ++ second color := by
  intro rest
  rw [List.append_assoc, hfirst, hsecond, List.append_assoc]

theorem fades_flatMap {α : Type} {text : Bool → α → List Char} {xs : List α}
    (h : ∀ x ∈ xs, Fades fun color => text color x) :
    Fades fun color => xs.flatMap (text color) := by
  induction xs with
  | nil => exact fades_const List.not_mem_nil
  | cons x xs ih =>
    obtain ⟨hx, hxs⟩ := List.forall_mem_cons.mp h
    exact hx.append (ih hxs)

theorem fades_if {p : Prop} [Decidable p] {text : Bool → List Char} (h : Fades text) :
    Fades fun color => if p then text color else [] := by
  by_cases hp : p
  · simpa [hp] using h
  · have hnone : Fades fun _ => [] := fades_const List.not_mem_nil
    simpa [hp] using hnone

/-! ## Components and queries -/

theorem line_false (r : Rendering) : r.line false = [' ', ' '] ++ r.text.toList ++ ['\n'] := by
  obtain ⟨excluded, exact, name?, value⟩ := r
  cases excluded <;> cases exact <;> cases name? <;>
    simp [Rendering.line, Rendering.text, Style.paint]

theorem Component.escape_notMem_raw {c : Component} (h : ∀ s ∈ c.strings, '\x1b' ∉ s.toList) :
    '\x1b' ∉ c.text.raw.toList := by
  have hpieces : ∀ s ∈ c.text.pieces, '\x1b' ∉ s.toList := by
    cases c with
    | term t => exact h
    | filter f => exact fun s hs => h s (List.mem_cons_of_mem _ hs)
  rw [Term.raw, String.toList_join]
  intro hmem
  obtain ⟨s, hs, hesc⟩ := List.mem_flatMap.mp hmem
  exact hpieces s hs hesc

theorem fades_line {c : Component} (h : ∀ s ∈ c.strings, '\x1b' ∉ s.toList) :
    Fades fun color => c.render.line color := by
  have hindent : Fades fun _ => [' ', ' '] := fades_const (by decide)
  have hexcluded : Fades fun color =>
      if c.render.excluded then Style.excluded.paint color ['-'] else [] :=
    fades_if (fades_paint Style.excluded (by decide))
  have hexact : Fades fun color => if c.render.exact then Style.exact.paint color ['$'] else [] :=
    fades_if (fades_paint Style.exact (by decide))
  have hvalue : Fades fun _ => c.render.value.toList :=
    fades_const (by simpa [Component.render] using Component.escape_notMem_raw h)
  have hend : Fades fun _ => ['\n'] := fades_const (by decide)
  have hsigns := (hindent.append hexcluded).append hexact
  cases c with
  | term t =>
    have hname : Fades fun _ => [] := fades_const List.not_mem_nil
    exact ((hsigns.append hname).append hvalue).append hend
  | filter f =>
    have hf := h f.name (List.mem_cons_self ..)
    have hname : Fades fun color => Style.name.paint color (f.name.toList ++ [':']) :=
      fades_paint Style.name (by simpa using hf)
    exact ((hsigns.append hname).append hvalue).append hend

/-- Without colour a query stands above its components, each as it is written, or above a note
that there are none. -/
theorem text_false (p : ParsedQuery) :
    p.text false = p.query ++ "\n" ++ (if p.components = [] then "  (no components)\n"
      else String.join (p.components.map fun c => "  " ++ c.render.text ++ "\n")) := by
  rw [← String.toList_inj, ParsedQuery.text, String.toList_ofList]
  by_cases h : p.components = []
  · simp [h, Style.paint]
  · simp [h, Style.paint, line_false, String.toList_join, List.flatMap_map]

theorem fades_text {p : ParsedQuery} (h : p.IsEscapeless) :
    Fades fun color => (p.text color).toList := by
  simp only [ParsedQuery.text, String.toList_ofList]
  have hquery := fades_paint Style.query h.1
  have hbreak : Fades fun _ => ['\n'] := fades_const (by decide)
  refine (hquery.append hbreak).append ?_
  by_cases hnone : p.components.isEmpty
  · have hindent : Fades fun _ => [' ', ' '] := fades_const (by decide)
    have hnote : Fades fun color => Style.note.paint color "(no components)".toList :=
      fades_paint Style.note (by decide)
    simpa [hnone] using (hindent.append hnote).append hbreak
  · simpa [hnone] using fades_flatMap fun c hc => fades_line (h.2 c hc)

theorem mem_renderText_of_mem_strings {c : Component} {s : String} {x : Char} (hs : s ∈ c.strings)
    (hx : x ∈ s.toList) : x ∈ c.render.text.toList := by
  have hraw : ∀ t : Term, s ∈ t.pieces → x ∈ t.raw.toList := by
    intro t ht
    rw [Term.raw, String.toList_join]
    exact List.mem_flatMap.mpr ⟨s, ht, hx⟩
  cases c with
  | term t => simp [Rendering.text, Component.render, Component.text, hraw t hs]
  | filter f =>
    rcases List.mem_cons.mp hs with rfl | hs
    · simp [Rendering.text, Component.render, Component.name?, hx]
    · simp [Rendering.text, Component.render, Component.text, hraw f.tag hs]

/-- All strings of a query stand in its text. -/
theorem isEscapeless_of_notMem_text {p : ParsedQuery} (h : '\x1b' ∉ (p.text false).toList) :
    p.IsEscapeless := by
  rw [text_false] at h
  constructor
  · intro hquery
    exact h (by simp [hquery])
  · intro c hc s hs hmem
    have hwritten := mem_renderText_of_mem_strings hs hmem
    have hsome : p.components ≠ [] := List.ne_nil_of_mem hc
    apply h
    simp only [hsome, if_false, String.toList_append, String.toList_join, List.mem_append,
      List.mem_flatMap, List.mem_map]
    exact .inr ⟨_, ⟨c, hc, rfl⟩, by simp [hwritten]⟩

/-- **Colour never changes the text.** What is written in colour is the plain text once its
sequences are dropped, so long as no string has an escape character, which would be dropped too;
and the plain text has the written form of each component on a line of its own. -/
theorem bare_text (p : ParsedQuery) :
    (String.ofList (bare false (p.text true).toList) = p.text false ↔ p.IsEscapeless) ∧
    p.text false = p.query ++ "\n" ++ (if p.components = [] then "  (no components)\n"
      else String.join (p.components.map fun c => "  " ++ c.render.text ++ "\n")) := by
  refine ⟨⟨?_, ?_⟩, text_false p⟩
  · intro h
    apply isEscapeless_of_notMem_text
    rw [← h, String.toList_ofList]
    exact escape_notMem_bare false _
  · intro h
    have hfades := fades_text h []
    rw [List.append_nil] at hfades
    rw [hfades]
    simp [bare]

end TagQuery
