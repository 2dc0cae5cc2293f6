import TagQuery.Query.Scan

/-!
What one step of the scan of a query can do (`Scan.Move`, `move_step`), what the
end of a component does (`flush_idle`, `flush_term`, `flush_filter`), and which
parts of the state they leave alone.
-/

namespace TagQuery.Scan

/-- What one step of the scan can do. -/
inductive Move (s : Scan) : Char → Scan → Prop
  | quote : Move s '"' { s with quoted := !s.quoted }
  | colon : Move s ':' s.openFilter
  | exclude : s.quoted = false → s.atWordStart = true →
      Move s '-' { s with pending.excluded := true }
  | exact : s.quoted = false → Move s '$' { s with pending.exact := true }
  | cut {c : Char} : s.quoted = false → c = ' ' ∨ c = ',' → Move s c s.flush
  | keep {c : Char} : c ≠ '"' → c ≠ ':' →
      (s.quoted = false → c ≠ '$' ∧ c ≠ ' ' ∧ c ≠ ',' ∧ (c = '-' → s.atWordStart = false)) →
      Move s c (s.append c)

theorem move_step (s : Scan) (c : Char) : Move s c (s.step c) := by
  unfold step
  split
  next h => exact h ▸ Move.quote
  next hquote =>
  split
  next h => exact h ▸ Move.colon
  next hcolon =>
  split
  next h => exact Move.keep hquote hcolon fun hq => absurd h (by simp [hq])
  next hq =>
  have hq : s.quoted = false := by simpa using hq
  split
  next h =>
    obtain ⟨hd, hw⟩ : c = '-' ∧ s.atWordStart = true := by simpa using h
    exact hd ▸ Move.exclude hq hw
  next hdash =>
  split
  next h => exact h ▸ Move.exact hq
  next hdollar =>
  split
  next h => exact Move.cut hq (by simpa using h)
  next hcut =>
    refine Move.keep hquote hcolon fun _ => ⟨hdollar, ?_, ?_, ?_⟩
    · rintro rfl
      simp at hcut
    · rintro rfl
      simp at hcut
    · rintro rfl
      simpa using hdash

theorem step_separator {s : Scan} (hq : s.quoted = false) {c : Char} (hc : c = ' ' ∨ c = ',') :
    s.step c = s.flush := by
  rcases hc with rfl | rfl <;> simp [step, hq]

@[simp] theorem quoted_flush (s : Scan) : s.flush.quoted = s.quoted := by
  unfold flush
  split <;> rfl

theorem flush_idle {s : Scan} (hn : s.name? = none) (hw : s.word = []) : s.flush = s := by
  simp [flush, pieces, hn, hw]

theorem flush_term {s : Scan} (hn : s.name? = none) (hw : s.word ≠ []) :
    s.flush = { s with
      found := .term ⟨s.pieces, s.pending⟩ :: s.found, word := [], pending := {} } := by
  simp [flush, pieces, hn, hw]

theorem flush_filter {s : Scan} {name : String} (hn : s.name? = some name) :
    s.flush = { s with
      found := .filter ⟨name, ⟨s.pieces, {}⟩, s.pending⟩ :: s.found
      word := [], name? := none, pending := {} } := by
  simp [flush, hn]

theorem quoted_step (s : Scan) (c : Char) :
    (s.step c).quoted = if c = '"' then !s.quoted else s.quoted := by
  have hm := s.move_step c
  generalize s.step c = s' at hm
  cases hm with
  | quote => rfl
  | colon => rfl
  | exclude => rfl
  | exact => rfl
  | cut _ hc =>
    rw [quoted_flush, if_neg]
    rintro rfl
    simp at hc
  | keep hquote => rw [if_neg hquote]; rfl

end TagQuery.Scan
