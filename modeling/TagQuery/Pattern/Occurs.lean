/-!
Looking for a list inside another, place by place. `occursIn_iff` says that no
place is missed.
-/

namespace TagQuery

/-- Does `part` stand in the list at one of the next places? -/
def occursWithin {α : Type} [BEq α] (part : List α) : Nat → List α → Bool
  | 0, _ => false
  | places + 1, xs => part.isPrefixOf xs || occursWithin part places xs.tail

/-- Does `part` stand somewhere in the list? Only the places are tried that leave
room for it. -/
def occursIn {α : Type} [BEq α] (part xs : List α) : Bool :=
  occursWithin part (xs.length + 1 - part.length) xs

private theorem occursWithin_iff {α : Type} [BEq α] [LawfulBEq α] (part : List α) (places : Nat)
    (xs : List α) :
    occursWithin part places xs = true ↔ ∃ k, k < places ∧ part <+: xs.drop k := by
  induction places generalizing xs with
  | zero => simp [occursWithin]
  | succ places ih =>
    rw [occursWithin, Bool.or_eq_true, List.isPrefixOf_iff_prefix, ih]
    constructor
    · rintro (h | ⟨k, hk, h⟩)
      · exact ⟨0, Nat.succ_pos _, by simpa using h⟩
      · exact ⟨k + 1, Nat.succ_lt_succ hk, by simpa using h⟩
    · rintro ⟨k, hk, h⟩
      cases k with
      | zero => exact Or.inl (by simpa using h)
      | succ k => exact Or.inr ⟨k, Nat.lt_of_succ_lt_succ hk, by simpa using h⟩

theorem occursIn_iff {α : Type} [BEq α] [LawfulBEq α] (part xs : List α) :
    occursIn part xs = true ↔ part <:+: xs := by
  rw [occursIn, occursWithin_iff]
  constructor
  · rintro ⟨k, _, h⟩
    exact h.isInfix.trans (List.drop_suffix k xs).isInfix
  · rintro ⟨before, after, rfl⟩
    refine ⟨before.length, ?_, after, by simp⟩
    simp only [List.length_append]
    omega

end TagQuery
