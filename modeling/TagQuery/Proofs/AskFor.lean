import TagQuery.Proofs.RoundTrip

/-!
A query for every list of askable components. In the written form of a component a
name stands bare, and not every name can; here it stands between quotes like the
value, and every component ends with a space.

* `askFor`: the query; `foldl_asked` and `foldl_askedList`: what the scan makes of one
  of its parts and of the whole;
* `exists_parse_eq_iff`: **the lists that queries yield are exactly the lists of
  components that can be asked for.**
-/

namespace TagQuery

namespace Component

/-- The name of a component between quotes, with its colon. -/
def quotedLabel (c : Component) : List Char :=
  match c.name? with
  | none => []
  | some name => '"' :: (name.toList ++ ['"']) ++ [':']

/-- The part of a query that asks for a component. -/
def asked (c : Component) : List Char :=
  c.modifiers.signs ++ c.quotedLabel ++ '"' :: (c.text.raw.toList ++ ['"']) ++ [' ']

theorem IsAskable.name {c : Component} (h : c.IsAskable) {name : String}
    (hn : c.name? = some name) : IsName name := by
  cases c with
  | term t => simp [name?] at hn
  | filter f =>
    obtain rfl := Option.some.inj hn
    exact h.2.2.2

theorem IsAskable.lower_asked {c : Component} (h : c.IsAskable) :
    ∀ x ∈ c.asked, Text.IsLower x := by
  have hlabel : ∀ x ∈ c.quotedLabel, Text.IsLower x := by
    intro x hx
    unfold quotedLabel at hx
    split at hx
    · simp at hx
    next name hn =>
      simp only [List.mem_append, List.mem_cons, List.not_mem_nil, or_false] at hx
      rcases hx with (rfl | hx | rfl) | rfl
      · decide
      · exact (((isName_iff name).mp (h.name hn)).2 x hx).2.2
      · decide
      · decide
  intro x hx
  simp only [asked, List.mem_append, List.mem_cons, List.not_mem_nil, or_false] at hx
  rcases hx with ((hx | hx) | rfl | hx | rfl) | rfl
  · rcases Modifiers.mem_signs hx with rfl | rfl <;> decide
  · exact hlabel x hx
  · decide
  · exact (h.raw x hx).2.2
  · decide
  · decide

end Component

/-- A query that asks for all the components. -/
def askFor (cs : List Component) : String := String.ofList (cs.flatMap Component.asked)

namespace Scan

theorem step_colon (s : Scan) : s.step ':' = s.openFilter := by
  simp [step]

/-- A name between quotes becomes the name of a filter as it stands, whatever signs
are in it. -/
theorem foldl_quotedName {name : String} (h : IsName name) (found : List Component)
    (pending : Modifiers) :
    ('"' :: (name.toList ++ ['"']) ++ [':']).foldl step { found, pending }
      = { found, pending, name? := some name } := by
  rw [List.foldl_append, foldl_value rfl rfl ((isName_iff name).mp h).2, List.foldl_cons,
    step_colon, openFilter]
  simp [h.canonical]

/-- **Asking for one component.** The scan finds it and is at rest again. -/
theorem foldl_asked {c : Component} (h : c.IsAskable) (found : List Component) :
    c.asked.foldl step { found } = { found := c :: found } := by
  rw [Component.asked, List.foldl_append, List.foldl_append, List.foldl_append, foldl_signs]
  cases c with
  | term t =>
    have hword : t.raw.toList.reverse ≠ [] := mt List.reverse_eq_nil_iff.mp h.raw_ne_nil
    rw [show (Component.term t).quotedLabel = [] from rfl, List.foldl_nil,
      foldl_value rfl rfl h.raw, List.foldl_cons, List.foldl_nil, step_separator rfl (Or.inl rfl),
      flush_term rfl hword, h.pieces rfl]
    rfl
  | filter f =>
    have htag : (⟨f.tag.pieces, {}⟩ : Term) = f.tag := by
      rw [show ({} : Modifiers) = f.tag.modifiers from h.1.symm]
    have hname := foldl_quotedName (h.name rfl) found f.modifiers
    rw [show (Component.filter f).quotedLabel = '"' :: (f.name.toList ++ ['"']) ++ [':'] from rfl,
      show (Component.filter f).modifiers = f.modifiers from rfl, hname,
      foldl_value rfl rfl h.raw, List.foldl_cons, List.foldl_nil, step_separator rfl (Or.inl rfl),
      flush_filter rfl, h.pieces rfl]
    simp only [Component.text, htag]

theorem foldl_askedList {cs : List Component} (h : ∀ c ∈ cs, c.IsAskable)
    (found : List Component) :
    (cs.flatMap Component.asked).foldl step { found } = { found := cs.reverse ++ found } := by
  induction cs generalizing found with
  | nil => rfl
  | cons c cs ih =>
    rw [List.flatMap_cons, List.foldl_append, foldl_asked (h c (List.mem_cons_self ..)),
      ih fun x hx => h x (List.mem_cons_of_mem _ hx)]
    simp

end Scan

theorem parse_askFor {cs : List Component} (h : ∀ c ∈ cs, c.IsAskable) :
    parse (askFor cs) = cs := by
  have hlower : ∀ x ∈ cs.flatMap Component.asked, Text.IsLower x := by
    intro x hx
    obtain ⟨c, hc, hx⟩ := List.mem_flatMap.mp hx
    exact (h c hc).lower_asked x hx
  rw [parse, askFor, String.toList_ofList, Text.lower_of_isLower hlower, Scan.foldl_askedList h,
    Scan.components, Scan.flush_idle rfl rfl]
  simp

/-- **Queries yield the lists of askable components and no others.** -/
theorem exists_parse_eq_iff (cs : List Component) :
    (∃ query, parse query = cs) ↔ ∀ c ∈ cs, c.IsAskable := by
  constructor
  · rintro ⟨query, rfl⟩ c hc
    exact askable_of_mem_parse hc
  · intro h
    exact ⟨askFor cs, parse_askFor h⟩

end TagQuery
