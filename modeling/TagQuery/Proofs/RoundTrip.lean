import Mathlib.Data.List.Induction
import Mathlib.Data.List.TakeWhile
import TagQuery.Proofs.Askable
import TagQuery.Query.Rendering

/-!
Which components are read back from their written form. A value stands between
quotes, but a name is written bare, so a name with a space, a comma or a dollar,
or with a dash in front, comes back as something else.

* `reads_name`: what the scan makes of a name, bare or not;
* `flush_written`: a well-formed component is read back and the scan comes to rest;
* `wellFormed_of_written`: a component that is read back has a bare name;
* `parse_writeQuery_eq_iff`: a list of components is read back exactly if all of
  them are well-formed;
* `parse_writeQuery_parse_iff`: the components of a query are read back exactly if
  all of their names are bare.
-/

namespace TagQuery

/-- A name that can stand without quotes. -/
structure IsBare (cs : List Char) : Prop where
  spaceless : ' ' ∉ cs
  commaless : ',' ∉ cs
  dollarless : '$' ∉ cs
  dashless : (cs.dropWhile Text.isBlank).head? ≠ some '-'

/-- A component that can be asked for and has a bare name, if any. -/
def Component.IsWellFormed (c : Component) : Prop :=
  c.IsAskable ∧ ∀ name, c.name? = some name → IsBare name.toList

/-! ## Bare names -/

private theorem categories_bare (n : String) (h : n ∈ categories) : IsBare n.toList := by
  have hall : ∀ n ∈ categories, ' ' ∉ n.toList ∧ ',' ∉ n.toList ∧ '$' ∉ n.toList ∧
      (n.toList.dropWhile Text.isBlank).head? ≠ some '-' := by
    decide +kernel
  obtain ⟨hs, hc, hd, hh⟩ := hall n h
  exact ⟨hs, hc, hd, hh⟩

/-- A shorthand stands for a bare name, so no name gets a sign by it. -/
theorem isBare_canonicalName {n : String} (h : IsBare n.toList) :
    IsBare (canonicalName n).toList := by
  rcases canonicalName_cases n with hn | hn
  · rw [hn]
    exact h
  · exact categories_bare _ hn

theorem isBare_nil : IsBare [] := ⟨by simp, by simp, by simp, by simp⟩

/-- A dash comes first after the blanks if it did before or if all was blank. -/
private theorem head?_dropWhile_append (cs : List Char) (c : Char) :
    ((cs ++ [c]).dropWhile Text.isBlank).head? ≠ some '-' ↔
      (cs.dropWhile Text.isBlank).head? ≠ some '-' ∧ (cs.all Text.isBlank = true → c ≠ '-') := by
  simp only [List.dropWhile_append, List.isEmpty_iff]
  by_cases hnil : cs.dropWhile Text.isBlank = []
  · have hall : cs.all Text.isBlank = true := by
      rw [List.all_eq_true]
      exact List.dropWhile_eq_nil_iff.mp hnil
    rw [if_pos hnil, hnil]
    by_cases hb : Text.isBlank c = true
    · have hc : c ≠ '-' := by
        rintro rfl
        exact absurd hb (by decide)
      simp [hall, hb, hc]
    · simp [hall, hb]
  · have hall : ¬cs.all Text.isBlank = true := by
      rw [List.all_eq_true]
      exact fun hall => hnil (List.dropWhile_eq_nil_iff.mpr hall)
    rw [if_neg hnil]
    obtain ⟨x, rest, hx⟩ := List.exists_cons_of_ne_nil hnil
    simp [hx, hall]

theorem isBare_append_iff (cs : List Char) (c : Char) : IsBare (cs ++ [c]) ↔
    IsBare cs ∧ c ≠ ' ' ∧ c ≠ ',' ∧ c ≠ '$' ∧ (cs.all Text.isBlank = true → c ≠ '-') := by
  have hdash := head?_dropWhile_append cs c
  constructor
  · rintro ⟨hs, hc, hd, hh⟩
    obtain ⟨hh, hw⟩ := hdash.mp hh
    simp only [List.mem_append, List.mem_singleton, not_or] at hs hc hd
    exact ⟨⟨hs.1, hc.1, hd.1, hh⟩, Ne.symm hs.2, Ne.symm hc.2, Ne.symm hd.2, hw⟩
  · rintro ⟨⟨hs, hc, hd, hh⟩, hs', hc', hd', hw⟩
    refine ⟨?_, ?_, ?_, hdash.mpr ⟨hh, hw⟩⟩
    · simp [hs, Ne.symm hs']
    · simp [hc, Ne.symm hc']
    · simp [hd, Ne.symm hd']

namespace Scan

/-- What becomes of a scan that reads the name `cs` outside quotes. If the name is
bare it is the word now; if not, some of it is gone. Only terms are found on the way. -/
structure NameRead (s : Scan) (cs : List Char) (s' : Scan) : Prop where
  quoted : s'.quoted = false
  name? : s'.name? = none
  found : ∃ terms, (∀ c ∈ terms, c.name? = none) ∧ s'.found = terms ++ s.found
  whole : IsBare cs → s' = { s with word := cs.reverse }
  broken : ¬IsBare cs → s'.word.length < cs.length

theorem NameRead.length_le {s s' : Scan} {cs : List Char} (h : NameRead s cs s') :
    s'.word.length ≤ cs.length := by
  by_cases hb : IsBare cs
  · rw [h.whole hb]
    simp
  · exact Nat.le_of_lt (h.broken hb)

/-- A sign is not part of the word, so the word falls behind the name. -/
private theorem nameRead_sign {s s' : Scan} {cs : List Char} {c : Char} (h : NameRead s cs s')
    (hb : ¬IsBare (cs ++ [c])) (pending : Modifiers) :
    NameRead s (cs ++ [c]) { s' with pending } := by
  refine ⟨h.quoted, h.name?, h.found, fun hbare => absurd hbare hb, fun _ => ?_⟩
  have hlen := h.length_le
  simp only [List.length_append, List.length_singleton]
  omega

/-- After a separator the word starts anew, and it ended a term if there was one. -/
private theorem nameRead_flush {s s' : Scan} {cs : List Char} {c : Char} (h : NameRead s cs s')
    (hb : ¬IsBare (cs ++ [c])) : NameRead s (cs ++ [c]) s'.flush := by
  by_cases hw : s'.word = []
  · rw [flush_idle h.name? hw]
    exact nameRead_sign h hb s'.pending
  · obtain ⟨terms, hterms, hfound⟩ := h.found
    rw [flush_term h.name? hw]
    refine ⟨h.quoted, h.name?, ⟨_ :: terms, ?_, congrArg _ hfound⟩,
      fun hbare => absurd hbare hb, fun _ => by simp⟩
    intro c hc
    rcases List.mem_cons.mp hc with rfl | hc
    · rfl
    · exact hterms c hc

/-- **Step lemma.** A character that the scan takes for a sign breaks the name. -/
theorem nameRead_step {s s' : Scan} {cs : List Char} {c : Char} (h : NameRead s cs s')
    (hc : IsWordChar c) : NameRead s (cs ++ [c]) (s'.step c) := by
  have hbare := isBare_append_iff cs c
  have hm := s'.move_step c
  generalize s'.step c = s'' at hm
  cases hm with
  | quote => exact absurd rfl hc.1
  | colon => exact absurd rfl hc.2.1
  | exclude _ hw =>
    apply nameRead_sign h
    rw [hbare]
    rintro ⟨hb, _, _, _, hdash⟩
    rw [h.whole hb, atWordStart, Bool.or_eq_true, decide_eq_true_eq, List.all_reverse] at hw
    rcases hw with hw | hw
    · exact hdash hw rfl
    · exact hb.spaceless (List.mem_reverse.mp (List.mem_of_head? hw))
  | exact => exact nameRead_sign h (fun hb => hb.dollarless (by simp)) _
  | cut _ hcut =>
    apply nameRead_flush h
    rcases hcut with rfl | rfl
    · exact fun hb => hb.spaceless (by simp)
    · exact fun hb => hb.commaless (by simp)
  | keep _ _ hplain =>
    obtain ⟨hdollar, hspace, hcomma, hdash⟩ := hplain h.quoted
    refine ⟨h.quoted, h.name?, h.found, fun hwhole => ?_, fun hbroken => ?_⟩
    · rw [h.whole (hbare.mp hwhole).1]
      simp [append]
    · have hb : ¬IsBare cs := by
        intro hb
        refine hbroken (hbare.mpr ⟨hb, hspace, hcomma, hdollar, fun hall => ?_⟩)
        rintro rfl
        have hw := hdash rfl
        rw [h.whole hb] at hw
        simp [atWordStart, hall] at hw
      have hlt := h.broken hb
      simpa [append] using Nat.succ_lt_succ hlt

/-- **What the scan makes of a name**, bare or not. -/
theorem reads_name {s : Scan} (hq : s.quoted = false) (hn : s.name? = none) (hw : s.word = [])
    {cs : List Char} (hcs : ∀ c ∈ cs, IsWordChar c) : NameRead s cs (cs.foldl step s) := by
  induction cs using List.reverseRecOn with
  | nil =>
    refine ⟨hq, hn, ⟨[], by simp, rfl⟩, fun _ => ?_, fun h => absurd isBare_nil h⟩
    show s = { s with word := [] }
    rw [← hw]
  | append_singleton cs c ih =>
    rw [List.foldl_append]
    exact nameRead_step (ih fun x hx => hcs x (List.mem_append_left _ hx)) (hcs c (by simp))

end Scan

/-! ## Written components -/

def Modifiers.signs (m : Modifiers) : List Char :=
  (if m.excluded then ['-'] else []) ++ (if m.exact then ['$'] else [])

theorem Modifiers.mem_signs {m : Modifiers} {x : Char} (h : x ∈ m.signs) : x = '-' ∨ x = '$' := by
  obtain ⟨excluded, exact⟩ := m
  cases excluded <;> cases exact <;> simp_all [signs]

/-- The name of a component with its colon. -/
def Component.label (c : Component) : List Char :=
  match c.name? with
  | none => []
  | some name => name.toList ++ [':']

/-- A component as it is written, character by character. -/
theorem toList_render (c : Component) : c.render.text.toList =
    c.modifiers.signs ++ (c.label ++ '"' :: (c.text.raw.toList ++ ['"'])) := by
  unfold Rendering.text Component.render Modifiers.signs Component.label
  cases c.modifiers.excluded <;> cases c.modifiers.exact <;> cases c.name? <;> simp

theorem writeQuery_cons_cons (c d : Component) (cs : List Component) :
    (writeQuery (c :: d :: cs)).toList
      = c.render.text.toList ++ ' ' :: (writeQuery (d :: cs)).toList := by
  simp [writeQuery, String.intercalate_cons_cons]

theorem Component.IsAskable.raw {c : Component} (h : c.IsAskable) :
    ∀ x ∈ c.text.raw.toList, IsWordChar x := by
  have hvalues : ∀ v ∈ c.text.pieces, IsValue v := by
    cases c with
    | term t => exact h.2
    | filter f => exact h.2.2.1
  intro x hx
  rw [Term.raw, String.toList_join] at hx
  obtain ⟨v, hv, hx⟩ := List.mem_flatMap.mp hx
  exact ((isValue_iff v).mp (hvalues v hv)).2 x hx

theorem Component.IsAskable.raw_ne_nil {t : Term} (h : (Component.term t).IsAskable) :
    t.raw.toList ≠ [] := by
  obtain ⟨v, hv⟩ := List.length_eq_one_iff.mp h.1
  have hne := (h.2 v (by simp [hv])).nonempty
  rw [Term.raw, hv, ne_eq, String.toList_eq_nil_iff]
  simpa using hne

/-- The one value that a component can have is the word that its text is written as. -/
theorem Component.IsAskable.pieces {c : Component} (h : c.IsAskable) {s : Scan}
    (hw : s.word = c.text.raw.toList.reverse) : s.pieces = c.text.pieces := by
  have hlen : c.text.pieces.length ≤ 1 := by
    cases c with
    | term t => exact Nat.le_of_eq h.1
    | filter f => exact h.2.1
  have hvalues : ∀ v ∈ c.text.pieces, v ≠ "" := by
    cases c with
    | term t => exact fun v hv => (h.2 v hv).nonempty
    | filter f => exact fun v hv => (h.2.2.1 v hv).nonempty
  rw [Scan.pieces, hw, Term.raw]
  cases hp : c.text.pieces with
  | nil => rfl
  | cons v rest =>
    obtain rfl : rest = [] := by
      rw [hp, List.length_cons] at hlen
      exact List.eq_nil_of_length_eq_zero (by omega)
    have hv : v.toList ≠ [] := by
      rw [ne_eq, String.toList_eq_nil_iff]
      exact hvalues v (by simp [hp])
    simp [hv]

theorem Component.IsAskable.lower {c : Component} (h : c.IsAskable) :
    ∀ x ∈ c.render.text.toList, Text.IsLower x := by
  have hlabel : ∀ x ∈ c.label, Text.IsLower x := by
    cases c with
    | term t => simp [Component.label, Component.name?]
    | filter f =>
      intro x hx
      rcases List.mem_append.mp hx with hx | hx
      · exact (((isName_iff f.name).mp h.2.2.2).2 x hx).2.2
      · obtain rfl := List.mem_singleton.mp hx
        decide
  intro x hx
  simp only [toList_render, List.mem_append, List.mem_cons, List.not_mem_nil, or_false] at hx
  rcases hx with hx | hx | rfl | hx | rfl
  · rcases Modifiers.mem_signs hx with rfl | rfl <;> decide
  · exact hlabel x hx
  · decide
  · exact (h.raw x hx).2.2
  · decide

theorem lower_writeQuery {cs : List Component} (h : ∀ c ∈ cs, c.IsAskable) :
    Text.lower (writeQuery cs).toList = (writeQuery cs).toList := by
  apply Text.lower_of_isLower
  induction cs with
  | nil => simp [writeQuery]
  | cons c cs ih =>
    have hc := (h c (List.mem_cons_self ..)).lower
    cases cs with
    | nil => simpa [writeQuery] using hc
    | cons d cs =>
      intro x hx
      rw [writeQuery_cons_cons] at hx
      rcases List.mem_append.mp hx with hx | hx
      · exact hc x hx
      · rcases List.mem_cons.mp hx with rfl | hx
        · decide
        · exact ih (fun c hc => h c (List.mem_cons_of_mem _ hc)) x hx

/-! ## Reading what is written -/

namespace Scan

theorem foldl_signs (m : Modifiers) (found : List Component) :
    m.signs.foldl step { found } = { found, pending := m } := by
  obtain ⟨excluded, exact⟩ := m
  cases excluded <;> cases exact <;> rfl

theorem foldl_quoted {s : Scan} (hq : s.quoted = true) {cs : List Char}
    (hcs : ∀ c ∈ cs, IsWordChar c) :
    cs.foldl step s = { s with word := cs.reverse ++ s.word } := by
  induction cs generalizing s with
  | nil => rfl
  | cons c cs ih =>
    obtain ⟨hquote, hcolon, _⟩ := hcs c (List.mem_cons_self ..)
    have hs : s.step c = s.append c := by simp [step, hquote, hcolon, hq]
    rw [List.foldl_cons, hs,
      ih (s := s.append c) hq fun x hx => hcs x (List.mem_cons_of_mem _ hx)]
    simp [append]

theorem foldl_value {s : Scan} (hq : s.quoted = false) (hw : s.word = []) {cs : List Char}
    (hcs : ∀ c ∈ cs, IsWordChar c) :
    ('"' :: (cs ++ ['"'])).foldl step s = { s with word := cs.reverse } := by
  have hopen : s.step '"' = { s with quoted := true } := by simp [step, hq]
  rw [List.foldl_cons, List.foldl_append, hopen, foldl_quoted rfl hcs, hw]
  simp [step, hq]

/-- The scan after a written term. -/
theorem foldl_written_term {t : Term} (h : (Component.term t).IsAskable)
    (found : List Component) :
    (Component.term t).render.text.toList.foldl step { found }
      = { found, word := t.raw.toList.reverse, pending := t.modifiers } := by
  rw [toList_render, List.foldl_append, foldl_signs]
  exact foldl_value rfl rfl h.raw

/-- The scan after a written filter, by what it makes of the name. -/
theorem foldl_written_of_name {f : TagFilter} (h : (Component.filter f).IsAskable)
    {found : List Component} {s : Scan}
    (hs : f.name.toList.foldl step { found, pending := f.modifiers } = s)
    (hq : s.quoted = false) :
    (Component.filter f).render.text.toList.foldl step { found }
      = { s with
        word := f.tag.raw.toList.reverse
        name? := some (canonicalName (String.ofList s.word.reverse)) } := by
  have hlabel : (Component.filter f).label = f.name.toList ++ [':'] := rfl
  have hsigns : (Component.filter f).modifiers = f.modifiers := rfl
  rw [toList_render, List.foldl_append, foldl_signs, hlabel, hsigns, List.foldl_append,
    List.foldl_append, hs]
  exact foldl_value (s := s.openFilter) hq rfl h.raw

/-- The scan after a written filter, whatever became of its name. -/
theorem foldl_written_filter {f : TagFilter} (h : (Component.filter f).IsAskable)
    (found : List Component) :
    ∃ s, NameRead { found, pending := f.modifiers } f.name.toList s ∧
      (Component.filter f).render.text.toList.foldl step { found }
        = { s with
          word := f.tag.raw.toList.reverse
          name? := some (canonicalName (String.ofList s.word.reverse)) } := by
  have hname := reads_name (s := { found, pending := f.modifiers }) rfl rfl rfl
    ((isName_iff f.name).mp h.2.2.2).2
  exact ⟨_, hname, foldl_written_of_name h rfl hname.quoted⟩

/-- **Reading back.** After a well-formed component the scan has found it and is at rest. -/
theorem flush_written {c : Component} (h : c.IsWellFormed) (found : List Component) :
    (c.render.text.toList.foldl step { found }).flush = { found := c :: found } := by
  obtain ⟨hask, hbare⟩ := h
  cases c with
  | term t =>
    rw [foldl_written_term hask, flush_term rfl (by simpa using hask.raw_ne_nil),
      hask.pieces rfl]
    rfl
  | filter f =>
    obtain ⟨s, hread, hs⟩ := foldl_written_filter hask found
    have htag : (⟨f.tag.pieces, {}⟩ : Term) = f.tag := by
      rw [show ({} : Modifiers) = f.tag.modifiers from hask.1.symm]
    rw [hs, flush_filter rfl, hask.pieces rfl, hread.whole (hbare f.name rfl),
      List.reverse_reverse, String.ofList_toList, hask.2.2.2.canonical]
    simp only [Component.text, htag]

/-- Only a category is longer than the word that it is made of. -/
private theorem isBare_of_shorter {word name : String} (h : canonicalName word = name)
    (hlt : word.toList.length < name.toList.length) : IsBare name.toList := by
  rcases canonicalName_cases word with hc | hc
  · rw [← h, hc] at hlt
    omega
  · rw [h] at hc
    exact categories_bare name hc

/-- A component that comes first among the components found is written with a bare name. -/
theorem wellFormed_of_written {c : Component} (h : c.IsAskable) (found rest : List Component)
    (hp : (c.render.text.toList.foldl step { found }).flush.found.reverse
      <+: found.reverse ++ c :: rest) : c.IsWellFormed := by
  refine ⟨h, fun name hname => ?_⟩
  cases c with
  | term t => simp [Component.name?] at hname
  | filter f =>
    obtain rfl := Option.some.inj hname
    obtain ⟨s, hread, hs⟩ := foldl_written_filter h found
    obtain ⟨terms, hterms, hfound⟩ := hread.found
    rw [hs, flush_filter rfl, hfound, List.reverse_cons, List.reverse_append,
      List.append_assoc, List.prefix_append_right_inj] at hp
    cases ht : terms.reverse with
    | cons t ts =>
      rw [ht, List.cons_append, List.cons_prefix_cons] at hp
      have hnone := hterms t (List.mem_reverse.mp (by simp [ht]))
      rw [hp.1] at hnone
      simp [Component.name?] at hnone
    | nil =>
      rw [ht, List.nil_append, List.cons_prefix_cons] at hp
      have hname : canonicalName (String.ofList s.word.reverse) = f.name := by
        have hf := hp.1
        simp only [Component.filter.injEq] at hf
        rw [← hf]
      by_contra hb
      have hlt := hread.broken hb
      exact hb (isBare_of_shorter hname (by simpa using hlt))

/-! ## Lists of components -/

theorem found_flush (s : Scan) : s.found <:+ s.flush.found := by
  unfold flush
  split
  · exact List.suffix_rfl
  · exact List.suffix_cons _ _
  · exact List.suffix_cons _ _

/-- What is found stays found. -/
theorem found_foldl (s : Scan) (cs : List Char) : s.found <:+ (cs.foldl step s).found := by
  induction cs generalizing s with
  | nil => exact List.suffix_rfl
  | cons c cs ih =>
    have hstep : s.found <:+ (s.step c).found := by
      have hm := s.move_step c
      generalize s.step c = s' at hm
      cases hm with
      | cut => exact s.found_flush
      | _ => exact List.suffix_rfl
    exact hstep.trans (ih _)

theorem found_prefix_components (s : Scan) (cs : List Char) :
    s.found.reverse <+: (cs.foldl step s).components :=
  List.reverse_prefix.mpr ((s.found_foldl cs).trans (found_flush _))

theorem quoted_written {c : Component} (h : c.IsAskable) (found : List Component) :
    (c.render.text.toList.foldl step { found }).quoted = false := by
  cases c with
  | term t => rw [foldl_written_term h]
  | filter f =>
    obtain ⟨s, hread, hs⟩ := foldl_written_filter h found
    rw [hs]
    exact hread.quoted

/-- Between two written components the scan stands where the first one left it. -/
theorem components_written_cons {c : Component} (h : c.IsAskable) (d : Component)
    (cs found : List Component) :
    ((writeQuery (c :: d :: cs)).toList.foldl step { found }).components
      = ((writeQuery (d :: cs)).toList.foldl step
          (c.render.text.toList.foldl step { found }).flush).components := by
  have hq := quoted_written h found
  rw [writeQuery_cons_cons, List.foldl_append, List.foldl_cons]
  generalize c.render.text.toList.foldl step { found } = s at hq
  rw [show s.step ' ' = s.flush by simp [step, hq]]

theorem components_written {cs : List Component} (h : ∀ c ∈ cs, c.IsWellFormed)
    (found : List Component) :
    ((writeQuery cs).toList.foldl step { found }).components = found.reverse ++ cs := by
  induction cs generalizing found with
  | nil => simp [writeQuery, components, flush, pieces]
  | cons c cs ih =>
    have hc := h c (List.mem_cons_self ..)
    have hflush := flush_written hc found
    cases cs with
    | nil => simp [writeQuery, components, hflush]
    | cons d cs =>
      rw [components_written_cons hc.1, hflush,
        ih (fun x hx => h x (List.mem_cons_of_mem _ hx))]
      simp

theorem wellFormed_of_components {cs : List Component} (h : ∀ c ∈ cs, c.IsAskable)
    (found : List Component)
    (he : ((writeQuery cs).toList.foldl step { found }).components = found.reverse ++ cs) :
    ∀ c ∈ cs, c.IsWellFormed := by
  induction cs generalizing found with
  | nil => simp
  | cons c cs ih =>
    have hc := h c (List.mem_cons_self ..)
    cases cs with
    | nil =>
      have hwf : c.IsWellFormed := by
        apply wellFormed_of_written hc found []
        rw [← he]
        simp [writeQuery, components]
      simpa using hwf
    | cons d cs =>
      rw [components_written_cons hc] at he
      have hwf : c.IsWellFormed := by
        apply wellFormed_of_written hc found (d :: cs)
        rw [← he]
        exact found_prefix_components _ _
      rw [flush_written hwf] at he
      have hrest := ih (fun x hx => h x (List.mem_cons_of_mem _ hx)) (c :: found)
        (by simpa using he)
      intro x hx
      rcases List.mem_cons.mp hx with rfl | hx
      · exact hwf
      · exact hrest x hx

end Scan

theorem parse_writeQuery {cs : List Component} (h : ∀ c ∈ cs, c.IsAskable) :
    parse (writeQuery cs) = ((writeQuery cs).toList.foldl Scan.step {}).components := by
  rw [parse, lower_writeQuery h]

theorem parse_writeQuery_of_wellFormed {cs : List Component} (h : ∀ c ∈ cs, c.IsWellFormed) :
    parse (writeQuery cs) = cs := by
  rw [parse_writeQuery fun c hc => (h c hc).1]
  exact Scan.components_written h []

theorem wellFormed_of_parse_writeQuery {cs : List Component} (h : parse (writeQuery cs) = cs) :
    ∀ c ∈ cs, c.IsWellFormed := by
  have hask : ∀ c ∈ cs, c.IsAskable := by
    intro c hc
    rw [← h] at hc
    exact askable_of_mem_parse hc
  rw [parse_writeQuery hask] at h
  exact Scan.wellFormed_of_components hask [] h

/-- **Exactly the well-formed components are read back.** -/
theorem parse_writeQuery_eq_iff (cs : List Component) :
    parse (writeQuery cs) = cs ↔ ∀ c ∈ cs, c.IsWellFormed :=
  ⟨wellFormed_of_parse_writeQuery, parse_writeQuery_of_wellFormed⟩

/-- **The components of a query are read back** exactly if all their names are bare. -/
theorem parse_writeQuery_parse_iff (query : String) :
    parse (writeQuery (parse query)) = parse query ↔
      ∀ f, Component.filter f ∈ parse query → IsBare f.name.toList := by
  constructor
  · intro h f hf
    exact (wellFormed_of_parse_writeQuery h _ hf).2 f.name rfl
  · intro h
    refine parse_writeQuery_of_wellFormed fun c hc => ⟨askable_of_mem_parse hc, fun name hn => ?_⟩
    cases c with
    | term t => simp [Component.name?] at hn
    | filter f =>
      obtain rfl := Option.some.inj hn
      exact h f hc

/-- A name read between quotes is written without them and falls apart. -/
theorem quoted_name_not_read_back : ¬∀ query, parse (writeQuery (parse query)) = parse query := by
  intro h
  exact absurd (h "\"x y\":v") (by decide +kernel)

end TagQuery
