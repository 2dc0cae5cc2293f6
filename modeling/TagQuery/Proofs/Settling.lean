import TagQuery.Proofs.RoundTrip

/-!
Writing and reading again settles. A name that is not bare falls apart when it is
written and read, but no name of a written query comes out of quotes, so whatever it
falls into has bare names and stays.

* `isBare_word_step`, `bareNames_foldl`: outside quotes the word is always bare;
* `bareNames_written`: all names that the scan makes of a written component are bare;
* `hasBareNames_writeQuery`: hence all names of a written query are;
* `parse_writeQuery_settles`: **the second round gives what the first one gave.**
-/

namespace TagQuery

/-- All names of filters in a list are bare. -/
def HasBareNames (cs : List Component) : Prop :=
  ∀ f, Component.filter f ∈ cs → IsBare f.name.toList

theorem hasBareNames_cons_term (t : Term) {cs : List Component} (h : HasBareNames cs) :
    HasBareNames (.term t :: cs) := by
  intro f hf
  rcases List.mem_cons.mp hf with he | hf
  · exact Component.noConfusion he
  · exact h f hf

theorem hasBareNames_cons_filter {f : TagFilter} (hf : IsBare f.name.toList)
    {cs : List Component} (h : HasBareNames cs) : HasBareNames (.filter f :: cs) := by
  intro g hg
  rcases List.mem_cons.mp hg with he | hg
  · obtain rfl := Component.filter.inj he
    exact hf
  · exact h g hg

namespace Scan

/-- The names that the scan has given and the one that it is about to give are bare. -/
structure BareNames (s : Scan) : Prop where
  found : HasBareNames s.found
  name : ∀ n, s.name? = some n → IsBare n.toList

theorem bareNames_flush {s : Scan} (h : s.BareNames) : s.flush.BareNames := by
  cases hn : s.name? with
  | none =>
    by_cases hw : s.word = []
    · rw [flush_idle hn hw]
      exact h
    · rw [flush_term hn hw]
      exact ⟨hasBareNames_cons_term _ h.found, h.name⟩
  | some name =>
    rw [flush_filter hn]
    exact ⟨hasBareNames_cons_filter (h.name name hn) h.found, by simp⟩

theorem bareNames_openFilter {s : Scan} (h : s.BareNames) (hw : IsBare s.word.reverse) :
    s.openFilter.BareNames := by
  refine ⟨h.found, fun n hn => ?_⟩
  obtain rfl := Option.some.inj hn
  apply isBare_canonicalName
  rwa [String.toList_ofList]

/-! ## Outside quotes -/

theorem word_flush (s : Scan) : s.flush.word = [] := by
  cases hn : s.name? with
  | none =>
    by_cases hw : s.word = []
    · rw [flush_idle hn hw, hw]
    · rw [flush_term hn hw]
  | some name => rw [flush_filter hn]

/-- **Step lemma.** What the scan keeps outside quotes is no sign. -/
theorem isBare_word_step {s : Scan} (hq : s.quoted = false) (hw : IsBare s.word.reverse)
    {c : Char} (hc : c ≠ '"') : IsBare (s.step c).word.reverse := by
  have hm := s.move_step c
  generalize s.step c = s' at hm
  cases hm with
  | quote => exact absurd rfl hc
  | colon => exact isBare_nil
  | exclude => exact hw
  | exact => exact hw
  | cut =>
    rw [word_flush]
    exact isBare_nil
  | keep _ _ hplain =>
    obtain ⟨hdollar, hspace, hcomma, hdash⟩ := hplain hq
    rw [append, List.reverse_cons, isBare_append_iff]
    refine ⟨hw, hspace, hcomma, hdollar, fun hall => ?_⟩
    rintro rfl
    have hstart : s.atWordStart = true := by
      rw [List.all_reverse] at hall
      simp [atWordStart, hall]
    exact absurd hstart (by simp [hdash rfl])

/-- Only a colon makes a name. -/
theorem bareNames_step {s : Scan} (h : s.BareNames) {c : Char} (hc : c ≠ ':') :
    (s.step c).BareNames := by
  have hm := s.move_step c
  generalize s.step c = s' at hm
  cases hm with
  | colon => exact absurd rfl hc
  | cut => exact bareNames_flush h
  | _ => exact ⟨h.found, h.name⟩

/-- **Run lemma.** -/
theorem bareNames_foldl {s : Scan} (h : s.BareNames) (hq : s.quoted = false)
    (hw : IsBare s.word.reverse) {cs : List Char} (hcs : ∀ c ∈ cs, c ≠ '"' ∧ c ≠ ':') :
    (cs.foldl step s).BareNames ∧ (cs.foldl step s).quoted = false ∧
      IsBare (cs.foldl step s).word.reverse := by
  induction cs generalizing s with
  | nil => exact ⟨h, hq, hw⟩
  | cons c cs ih =>
    obtain ⟨hquote, hcolon⟩ := hcs c (List.mem_cons_self ..)
    apply ih (bareNames_step h hcolon) _ (isBare_word_step hq hw hquote)
      fun x hx => hcs x (List.mem_cons_of_mem _ hx)
    rw [quoted_step, if_neg hquote, hq]

/-! ## Written components -/

/-- Whatever becomes of the name of a written component, the scan makes bare names of it. -/
theorem bareNames_written {c : Component} (h : c.IsAskable) {found : List Component}
    (hfound : HasBareNames found) :
    (c.render.text.toList.foldl step { found }).BareNames := by
  cases c with
  | term t =>
    rw [foldl_written_term h]
    exact ⟨hfound, by simp⟩
  | filter f =>
    have hstart : BareNames { found, pending := f.modifiers } := ⟨hfound, by simp⟩
    have hname : ∀ x ∈ f.name.toList, x ≠ '"' ∧ x ≠ ':' := by
      intro x hx
      obtain ⟨hquote, hcolon, _⟩ := ((isName_iff f.name).mp h.2.2.2).2 x hx
      exact ⟨hquote, hcolon⟩
    obtain ⟨hnames, hq, hw⟩ := bareNames_foldl hstart rfl isBare_nil hname
    have hopen := bareNames_openFilter hnames hw
    rw [foldl_written_of_name h rfl hq]
    exact ⟨hopen.found, hopen.name⟩

/-- The end of a written component leaves the scan at rest, with nothing pending. -/
theorem flush_written_rests {c : Component} (h : c.IsAskable) (found : List Component) :
    ∃ next, (c.render.text.toList.foldl step { found }).flush = { found := next } := by
  cases c with
  | term t =>
    have hw : t.raw.toList.reverse ≠ [] := by simpa using h.raw_ne_nil
    rw [foldl_written_term h, flush_term rfl hw]
    exact ⟨_, rfl⟩
  | filter f =>
    obtain ⟨s, hread, hs⟩ := foldl_written_filter h found
    rw [hs, flush_filter rfl, hread.quoted]
    exact ⟨_, rfl⟩

theorem hasBareNames_components {cs : List Component} (h : ∀ c ∈ cs, c.IsAskable)
    {found : List Component} (hfound : HasBareNames found) :
    HasBareNames ((writeQuery cs).toList.foldl step { found }).components := by
  induction cs generalizing found with
  | nil => simpa [writeQuery, components, flush_idle, HasBareNames] using hfound
  | cons c cs ih =>
    have hc := h c (List.mem_cons_self ..)
    have hflush := bareNames_flush (bareNames_written hc hfound)
    cases cs with
    | nil => simpa [writeQuery, components, HasBareNames] using hflush.found
    | cons d cs =>
      obtain ⟨next, hnext⟩ := flush_written_rests hc found
      rw [components_written_cons hc, hnext]
      rw [hnext] at hflush
      exact ih (fun x hx => h x (List.mem_cons_of_mem _ hx)) hflush.found

end Scan

/-- No name of a written query needs quotes. -/
theorem hasBareNames_writeQuery {cs : List Component} (h : ∀ c ∈ cs, c.IsAskable) :
    HasBareNames (parse (writeQuery cs)) := by
  rw [parse_writeQuery h]
  exact Scan.hasBareNames_components h (by simp [HasBareNames])

/-- **Writing and reading again settles after one round**, also for a query whose names
do not survive it. -/
theorem parse_writeQuery_settles (query : String) :
    parse (writeQuery (parse (writeQuery (parse query))))
      = parse (writeQuery (parse query)) := by
  have hnames := hasBareNames_writeQuery fun c (hc : c ∈ parse query) => askable_of_mem_parse hc
  apply parse_writeQuery_of_wellFormed
  intro c hc
  refine ⟨askable_of_mem_parse hc, fun name hn => ?_⟩
  cases c with
  | term t => simp [Component.name?] at hn
  | filter f =>
    obtain rfl := Option.some.inj hn
    exact hnames f hc

/-- The first round takes the name apart, and what it gives has bare names. -/
example : parse (writeQuery (parse "\"x, -$y\":v"))
    = [.term ⟨["x"], {}⟩, .filter ⟨"y", ⟨["v"], {}⟩, ⟨true, true⟩⟩] := by
  decide +kernel

end TagQuery
