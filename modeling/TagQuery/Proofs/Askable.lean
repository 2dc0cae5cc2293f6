import TagQuery.Proofs.Lowercase
import TagQuery.Proofs.ScanSteps

/-!
Which components queries ask for. A value is never empty, a name is never a
shorthand, neither holds a quote, a colon or a capital, and the tag of a filter
has no modifiers of its own. `sound_step` says that every step of the scan keeps
this, and `askable_of_mem_parse` says it of every component of every query.
-/

namespace TagQuery

/-- A character that can get into a word. -/
def IsWordChar (c : Char) : Prop := c ≠ '"' ∧ c ≠ ':' ∧ Text.IsLower c

instance : DecidablePred IsWordChar := fun c =>
  inferInstanceAs (Decidable (c ≠ '"' ∧ c ≠ ':' ∧ Text.IsLower c))

/-- A text that can be a value. -/
structure IsValue (v : String) : Prop where
  nonempty : v ≠ ""
  quoteless : '"' ∉ v.toList
  colonless : ':' ∉ v.toList
  lower : Text.lowercase v = v

/-- The names that stand for a category. -/
def shorthands : List String :=
  ["a", "c", "char", "circle", "creator", "f", "g", "l", "lang", "m", "p", "r", "series"]

/-- A text that can be the name of a filter. -/
structure IsName (n : String) : Prop where
  quoteless : '"' ∉ n.toList
  colonless : ':' ∉ n.toList
  lower : Text.lowercase n = n
  resolved : n ∉ shorthands

/-- A component that can be asked for. -/
def Component.IsAskable : Component → Prop
  | .term t => t.pieces.length = 1 ∧ ∀ v ∈ t.pieces, IsValue v
  | .filter f => f.tag.modifiers = ⟨false, false⟩ ∧ f.tag.pieces.length ≤ 1 ∧
      (∀ v ∈ f.tag.pieces, IsValue v) ∧ IsName f.name

private theorem wordChars_iff (s : String) : (∀ c ∈ s.toList, IsWordChar c) ↔
    '"' ∉ s.toList ∧ ':' ∉ s.toList ∧ Text.lowercase s = s := by
  rw [Text.lowercase_eq_self_iff]
  constructor
  · intro h
    exact ⟨fun hq => (h _ hq).1 rfl, fun hc => (h _ hc).2.1 rfl, fun c hc => (h c hc).2.2⟩
  · rintro ⟨hq, hc, hl⟩ c hmem
    exact ⟨fun he => hq (he ▸ hmem), fun he => hc (he ▸ hmem), hl c hmem⟩

theorem isValue_iff (v : String) : IsValue v ↔ v ≠ "" ∧ ∀ c ∈ v.toList, IsWordChar c := by
  rw [wordChars_iff]
  exact ⟨fun h => ⟨h.nonempty, h.quoteless, h.colonless, h.lower⟩,
    fun ⟨hne, hq, hc, hl⟩ => ⟨hne, hq, hc, hl⟩⟩

/-! ## Names -/

/-- The names that are their own are all but the shorthands. -/
theorem canonicalName_eq_self_iff (n : String) : canonicalName n = n ↔ n ∉ shorthands := by
  unfold canonicalName
  split <;> simp_all [shorthands]

theorem IsName.canonical {n : String} (h : IsName n) : canonicalName n = n :=
  (canonicalName_eq_self_iff n).mpr h.resolved

theorem isName_iff (n : String) :
    IsName n ↔ canonicalName n = n ∧ ∀ c ∈ n.toList, IsWordChar c := by
  rw [wordChars_iff, canonicalName_eq_self_iff]
  exact ⟨fun h => ⟨h.resolved, h.quoteless, h.colonless, h.lower⟩,
    fun ⟨hn, hq, hc, hl⟩ => ⟨hq, hc, hl, hn⟩⟩

/-- The categories that have a shorthand. -/
def categories : List String :=
  ["artist", "character", "female", "group", "language", "male", "parody", "reclass"]

theorem canonicalName_cases (n : String) :
    canonicalName n = n ∨ canonicalName n ∈ categories := by
  unfold canonicalName
  split <;> simp [categories]

private theorem categories_wordChars : ∀ n ∈ categories, ∀ c ∈ n.toList, IsWordChar c := by
  have h : categories.all (fun n => n.toList.all fun c => IsWordChar c) = true := by
    decide +kernel
  simpa only [List.all_eq_true, decide_eq_true_eq] using h

theorem canonicalName_of_mem_categories : ∀ n ∈ categories, canonicalName n = n := by
  simp [categories, canonicalName]

/-- Whatever a word is, the name made of it is one. -/
theorem isName_canonicalName {n : String} (h : ∀ c ∈ n.toList, IsWordChar c) :
    IsName (canonicalName n) := by
  rw [isName_iff]
  rcases canonicalName_cases n with hn | hn
  · rw [hn]
    exact ⟨hn, h⟩
  · exact ⟨canonicalName_of_mem_categories _ hn, categories_wordChars _ hn⟩

/-! ## The scan -/

namespace Scan

/-- All that the scan holds can be asked for. -/
structure Sound (s : Scan) : Prop where
  found : ∀ c ∈ s.found, c.IsAskable
  word : ∀ x ∈ s.word, IsWordChar x
  name : ∀ n, s.name? = some n → IsName n

theorem sound_empty : Sound {} where
  found := by simp
  word := by simp
  name := by simp

theorem Sound.pieces {s : Scan} (h : s.Sound) :
    s.pieces.length ≤ 1 ∧ ∀ v ∈ s.pieces, IsValue v := by
  unfold Scan.pieces
  split
  · simp
  next hw =>
    refine ⟨by simp, fun v hv => ?_⟩
    obtain rfl := List.mem_singleton.mp hv
    rw [isValue_iff]
    refine ⟨?_, fun c hc => h.word c (by simpa using hc)⟩
    rw [ne_eq, ← String.toList_eq_nil_iff]
    simpa using hw

theorem sound_flush {s : Scan} (h : s.Sound) : s.flush.Sound := by
  obtain ⟨hlen, hvalues⟩ := h.pieces
  cases hn : s.name? with
  | none =>
    by_cases hw : s.word = []
    · rw [flush_idle hn hw]
      exact h
    · rw [flush_term hn hw]
      refine ⟨?_, by simp, h.name⟩
      intro c hc
      rcases List.mem_cons.mp hc with rfl | hc
      · exact ⟨by simp [Scan.pieces, hw], hvalues⟩
      · exact h.found c hc
  | some name =>
    rw [flush_filter hn]
    refine ⟨?_, by simp, by simp⟩
    intro c hc
    rcases List.mem_cons.mp hc with rfl | hc
    · exact ⟨rfl, hlen, hvalues, h.name name hn⟩
    · exact h.found c hc

theorem sound_openFilter {s : Scan} (h : s.Sound) : s.openFilter.Sound := by
  refine ⟨h.found, by simp [openFilter], fun n hn => ?_⟩
  obtain rfl := Option.some.inj hn
  exact isName_canonicalName fun c hc => h.word c (by simpa using hc)

/-- **Step lemma.** -/
theorem sound_step {s : Scan} (h : s.Sound) {c : Char} (hc : Text.IsLower c) :
    (s.step c).Sound := by
  have hm := s.move_step c
  generalize s.step c = s' at hm
  cases hm with
  | quote => exact ⟨h.found, h.word, h.name⟩
  | colon => exact sound_openFilter h
  | exclude => exact ⟨h.found, h.word, h.name⟩
  | exact => exact ⟨h.found, h.word, h.name⟩
  | cut => exact sound_flush h
  | keep hquote hcolon =>
    refine ⟨h.found, fun x hx => ?_, h.name⟩
    rcases List.mem_cons.mp hx with rfl | hx
    · exact ⟨hquote, hcolon, hc⟩
    · exact h.word x hx

/-- **Run lemma.** -/
theorem sound_foldl {s : Scan} (h : s.Sound) {cs : List Char} (hcs : ∀ c ∈ cs, Text.IsLower c) :
    (cs.foldl step s).Sound := by
  induction cs generalizing s with
  | nil => exact h
  | cons c cs ih =>
    exact ih (sound_step h (hcs c (List.mem_cons_self ..)))
      fun x hx => hcs x (List.mem_cons_of_mem _ hx)

end Scan

/-- Whatever the query, its components can be asked for. -/
theorem askable_of_mem_parse {query : String} {c : Component} (h : c ∈ parse query) :
    c.IsAskable := by
  have hlower : ∀ x ∈ Text.lower query.toList, Text.IsLower x := by
    intro x hx
    exact Text.isLower_of_mem_lower hx
  have hs := Scan.sound_foldl Scan.sound_empty hlower
  exact (Scan.sound_flush hs).found c (List.mem_reverse.mp h)

end TagQuery
