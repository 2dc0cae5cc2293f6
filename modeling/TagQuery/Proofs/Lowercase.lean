import TagQuery.Text.Lowercase

/-!
What lower-casing does to single characters and to texts that are lower-case
already.

* `isLower_of_mem_lower`: every character of a lower-cased text is its own small
  letter, so `lower_lower`: lower-casing twice is lower-casing once;
* `lower_eq_self_iff`: a text is its own lower-casing exactly if each of its
  characters is, whatever stands around them;
* `lowerBetween_sign`, `eq_of_mem_lowerBetween_sign`: the signs of queries and
  patterns are not changed, and no other character becomes one of them;
* `lower_append_barrier`: a text is lower-cased in parts, the parts on the two sides
  of a space or a comma each by itself.
-/

namespace TagQuery.Text

/-- The character is its own small letter. -/
def IsLower (c : Char) : Prop := lowerChar c = [c]

instance : DecidablePred IsLower := fun c => inferInstanceAs (Decidable (lowerChar c = [c]))

/-! ## The table of runs -/

/-- Is each of `a`, `a + step`, …, `b` its own small letter? A run is passed if it
lies behind or if the numbers fall between its capitals. -/
def stays (a b step : Nat) : List CaseRun → Bool
  | [] => true
  | r :: rest =>
    Nat.blt b r.first || Nat.blt r.last a && stays a b step rest
      || Nat.ble r.first a && (Nat.beq a b || Nat.beq step r.step)
        && Nat.blt 0 ((a - r.first) % r.step) && Nat.ble b (r.last + 1) && stays b b step rest

private theorem lowerCode_of_stays {a b step n : Nat} {runs : List CaseRun}
    (h : stays a b step runs = true) (ha : a ≤ n) (hb : n ≤ b) (hn : (n - a) % step = 0) :
    lowerCode n runs = n := by
  induction runs generalizing a with
  | nil => rfl
  | cons r rest ih =>
    simp only [stays, Bool.or_eq_true, Bool.and_eq_true, Nat.blt_eq, Nat.ble_eq, Nat.beq_eq] at h
    rw [lowerCode]
    split
    · rfl
    next hf =>
    rcases h with (h | ⟨h, hs⟩) | ⟨⟨⟨⟨hfa, hstep⟩, hgap⟩, hlast⟩, hs⟩
    · omega
    · rw [if_neg (by omega)]
      exact ih hs ha hn
    · split
      · have hmod : (n - r.first) % r.step = (a - r.first) % r.step := by
          rw [show n - r.first = a - r.first + (n - a) by omega, Nat.add_mod]
          rcases hstep with rfl | rfl
          · simp [show n = a by omega]
          · simp [hn]
        rw [if_neg (by omega)]
      next hl =>
        obtain rfl : n = b := by omega
        exact ih hs (Nat.le_refl _) (by simp)

private theorem caseRuns_stay :
    caseRuns.all (fun r => stays r.image (r.image + (r.last - r.first)) r.step caseRuns)
      = true := by
  decide +kernel

private theorem caseRuns_image : ∀ r ∈ caseRuns, 0x41 ≤ r.first ∧ 0x61 ≤ r.image ∧
    (r.image + (r.last - r.first) < 0x130 ∨ 0x130 < r.image) ∧
    (r.image + (r.last - r.first) < 0xD800 ∨
      0xDFFF < r.image ∧ r.image + (r.last - r.first) < 0x110000) := by
  decide +kernel

/-- A code point that is no small letter of its own lies in one of the runs. -/
private theorem lowerCode_cases (n : Nat) (runs : List CaseRun) :
    lowerCode n runs = n ∨ ∃ r ∈ runs, r.first ≤ n ∧ n ≤ r.last ∧ (n - r.first) % r.step = 0 ∧
      lowerCode n runs = r.image + (n - r.first) := by
  induction runs with
  | nil => exact Or.inl rfl
  | cons r rest ih =>
    rw [lowerCode]
    by_cases hf : n < r.first
    · exact Or.inl (if_pos hf)
    rw [if_neg hf]
    by_cases hl : n ≤ r.last
    · rw [if_pos hl]
      split
      next hm => exact Or.inr ⟨r, List.mem_cons_self .., by omega, hl, hm, rfl⟩
      · exact Or.inl rfl
    · rw [if_neg hl]
      rcases ih with h | ⟨s, hs, h⟩
      · exact Or.inl h
      · exact Or.inr ⟨s, List.mem_cons_of_mem _ hs, h⟩

theorem lowerCode_lowerCode (n : Nat) :
    lowerCode (lowerCode n caseRuns) caseRuns = lowerCode n caseRuns := by
  rcases lowerCode_cases n caseRuns with h | ⟨r, hr, hf, hl, hm, h⟩
  · rw [h, h]
  · rw [h]
    have hs := List.all_eq_true.mp caseRuns_stay r hr
    exact lowerCode_of_stays hs (by omega) (by omega) (by simpa using hm)

/-- Small letters of others are valid code points and none of them is a sign. -/
private theorem lowerCode_image (n : Nat) : lowerCode n caseRuns = n ∨
    0x41 ≤ n ∧ 0x61 ≤ lowerCode n caseRuns ∧ lowerCode n caseRuns ≠ 0x130 ∧
      (lowerCode n caseRuns).isValidChar := by
  rcases lowerCode_cases n caseRuns with h | ⟨r, hr, hf, hl, _, h⟩
  · exact Or.inl h
  · obtain ⟨hfirst, himage, hdot, hvalid⟩ := caseRuns_image r hr
    rw [h]
    simp only [Nat.isValidChar]
    omega

/-! ## Characters -/

private theorem toNat_ofNat {n : Nat} (h : n.isValidChar) : (Char.ofNat n).toNat = n := by
  rw [Char.ofNat, dif_pos h]
  rfl

private theorem toNat_lowerCode (c : Char) :
    (Char.ofNat (lowerCode c.toNat caseRuns)).toNat = lowerCode c.toNat caseRuns := by
  rcases lowerCode_image c.toNat with h | ⟨_, _, _, hv⟩
  · rw [h, Char.ofNat_toNat]
  · exact toNat_ofNat hv

theorem isLower_iff (c : Char) : IsLower c ↔ c ≠ 'İ' ∧ lowerCode c.toNat caseRuns = c.toNat := by
  unfold IsLower lowerChar
  split
  next h => simp [h]
  next h =>
    constructor
    · intro hc
      refine ⟨h, ?_⟩
      rw [← toNat_lowerCode, (List.cons.inj hc).1]
    · rintro ⟨_, hc⟩
      rw [hc, Char.ofNat_toNat]

theorem isLower_of_mem_lowerChar {c x : Char} (h : x ∈ lowerChar c) : IsLower x := by
  unfold lowerChar at h
  split at h
  · have hx : x = 'i' ∨ x = '\u0307' := by simpa using h
    rcases hx with rfl | rfl
    · decide
    · decide
  next hc =>
    obtain rfl := List.mem_singleton.mp h
    rw [isLower_iff, toNat_lowerCode, lowerCode_lowerCode]
    refine ⟨fun hd => ?_, rfl⟩
    have hn : lowerCode c.toNat caseRuns = 0x130 := by
      rw [← toNat_lowerCode, hd]
      rfl
    rcases lowerCode_image c.toNat with h | ⟨_, _, hne, _⟩
    · rw [hn] at h
      exact hc (by rw [← Char.ofNat_toNat c, ← h])
    · exact hne hn

/-- The signs of queries and patterns stand before the letters. -/
def IsSign (c : Char) : Prop := c.toNat < 0x41

instance : DecidablePred IsSign := fun c => inferInstanceAs (Decidable (c.toNat < 0x41))

theorem lowerChar_sign {c : Char} (h : IsSign c) : lowerChar c = [c] := by
  refine (isLower_iff c).mpr ⟨?_, ?_⟩
  · rintro rfl
    exact absurd h (by decide)
  · rcases lowerCode_image c.toNat with hn | ⟨hn, _⟩
    · exact hn
    · exact absurd h (Nat.not_lt.mpr hn)

theorem eq_of_mem_lowerChar_sign {c x : Char} (hx : IsSign x) (h : x ∈ lowerChar c) : x = c := by
  unfold lowerChar at h
  split at h
  · have hi : x = 'i' ∨ x = '\u0307' := by simpa using h
    rcases hi with rfl | rfl <;> exact absurd hx (by decide)
  · obtain rfl := List.mem_singleton.mp h
    unfold IsSign at hx
    rw [toNat_lowerCode] at hx
    rcases lowerCode_image c.toNat with h | ⟨_, hn, _⟩
    · rw [h, Char.ofNat_toNat]
    · omega

/-! ## Texts -/

theorem isLower_of_mem_lowerBetween {before after : List Char} {c x : Char}
    (h : x ∈ lowerBetween before c after) : IsLower x := by
  unfold lowerBetween at h
  split at h
  · split at h
    · obtain rfl := List.mem_singleton.mp h
      decide
    · obtain rfl := List.mem_singleton.mp h
      decide
  · exact isLower_of_mem_lowerChar h

theorem lowerBetween_of_isLower {c : Char} (h : IsLower c) (before after : List Char) :
    lowerBetween before c after = [c] := by
  unfold lowerBetween
  split
  next hc =>
    subst hc
    exact absurd h (by decide)
  · exact h

theorem lowerBetween_sign {c : Char} (h : IsSign c) (before after : List Char) :
    lowerBetween before c after = [c] :=
  lowerBetween_of_isLower (lowerChar_sign h) before after

theorem eq_of_mem_lowerBetween_sign {before after : List Char} {c x : Char} (hx : IsSign x)
    (h : x ∈ lowerBetween before c after) : x = c := by
  unfold lowerBetween at h
  split at h
  · have hs : x = 'ς' ∨ x = 'σ' := by
      split at h
      · exact Or.inl (List.mem_singleton.mp h)
      · exact Or.inr (List.mem_singleton.mp h)
    rcases hs with rfl | rfl <;> exact absurd hx (by decide)
  · exact eq_of_mem_lowerChar_sign hx h

private theorem isLower_of_mem_lowerAfter {before cs : List Char} {x : Char}
    (h : x ∈ lowerAfter before cs) : IsLower x := by
  induction cs generalizing before with
  | nil => simp [lowerAfter] at h
  | cons c rest ih =>
    rcases List.mem_append.mp h with h | h
    · exact isLower_of_mem_lowerBetween h
    · exact ih h

private theorem lowerAfter_of_isLower {cs : List Char} (h : ∀ c ∈ cs, IsLower c)
    (before : List Char) : lowerAfter before cs = cs := by
  induction cs generalizing before with
  | nil => rfl
  | cons c rest ih =>
    rw [lowerAfter, lowerBetween_of_isLower (h c (List.mem_cons_self ..)),
      ih fun x hx => h x (List.mem_cons_of_mem _ hx)]
    rfl

theorem isLower_of_mem_lower {cs : List Char} {x : Char} (h : x ∈ lower cs) : IsLower x := by
  rw [lower_eq] at h
  exact isLower_of_mem_lowerAfter h

theorem lower_of_isLower {cs : List Char} (h : ∀ c ∈ cs, IsLower c) : lower cs = cs := by
  rw [lower_eq]
  exact lowerAfter_of_isLower h []

/-- **Lower-casing twice is lower-casing once.** -/
theorem lower_lower (cs : List Char) : lower (lower cs) = lower cs :=
  lower_of_isLower fun _ h => isLower_of_mem_lower h

/-- Whether a text is lower-case is settled character by character, although the
small letter of a capital sigma is not. -/
theorem lower_eq_self_iff (cs : List Char) : lower cs = cs ↔ ∀ c ∈ cs, IsLower c := by
  constructor
  · intro h c hc
    rw [← h] at hc
    exact isLower_of_mem_lower hc
  · exact lower_of_isLower

theorem lowercase_eq_self_iff (s : String) : lowercase s = s ↔ ∀ c ∈ s.toList, IsLower c := by
  rw [← lower_eq_self_iff, ← toList_lowercase, String.toList_inj]

private theorem count_lowerBetween {x : Char} (hx : IsSign x) (before after : List Char)
    (c : Char) : (lowerBetween before c after).count x = [c].count x := by
  by_cases hc : c = x
  · rw [hc, lowerBetween_sign hx]
  · have hmem : x ∉ lowerBetween before c after := by
      intro h
      exact hc (eq_of_mem_lowerBetween_sign hx h).symm
    rw [List.count_eq_zero_of_not_mem hmem, List.count_eq_zero_of_not_mem (by simp [Ne.symm hc])]

private theorem count_lowerAfter {x : Char} (hx : IsSign x) (before cs : List Char) :
    (lowerAfter before cs).count x = cs.count x := by
  induction cs generalizing before with
  | nil => rfl
  | cons c rest ih =>
    rw [lowerAfter, List.count_append, count_lowerBetween hx, ih, ← List.count_append]
    rfl

theorem count_lower {x : Char} (hx : IsSign x) (cs : List Char) :
    (lower cs).count x = cs.count x := by
  rw [lower_eq, count_lowerAfter hx]

/-! ## Texts in parts -/

/-- A look for a cased character ends here without one. -/
def IsBarrier (c : Char) : Prop := isCaseIgnorable c = false ∧ isCased c = false

instance : DecidablePred IsBarrier := fun c =>
  inferInstanceAs (Decidable (isCaseIgnorable c = false ∧ isCased c = false))

/-- Do the ranges take in all of `a`, …, `b`? -/
def spans (a b : Nat) : List (Nat × Nat) → Bool
  | [] => false
  | (lo, hi) :: rest => Nat.ble lo a && (Nat.ble b hi || Nat.blt hi a && spans a b rest)

private theorem inRanges_of_spans {a b n : Nat} {ranges : List (Nat × Nat)}
    (h : spans a b ranges = true) (ha : a ≤ n) (hb : n ≤ b) : inRanges n ranges = true := by
  induction ranges with
  | nil => simp [spans] at h
  | cons r rest ih =>
    obtain ⟨lo, hi⟩ := r
    simp only [spans, Bool.and_eq_true, Bool.or_eq_true, Nat.ble_eq, Nat.blt_eq] at h
    rw [inRanges, if_neg (by omega)]
    rcases h.2 with hhi | ⟨hhi, hrest⟩
    · simp [show n ≤ hi by omega]
    · simp [ih hrest]

private theorem caseRuns_cased :
    caseRuns.all (fun r => spans r.image (r.image + (r.last - r.first)) casedRanges) = true := by
  decide +kernel

/-- No other character becomes a barrier. -/
theorem eq_of_mem_lowerChar_barrier {b c : Char} (hb : IsBarrier b) (h : b ∈ lowerChar c) :
    b = c := by
  unfold lowerChar at h
  split at h
  · have hi : b = 'i' ∨ b = '\u0307' := by simpa using h
    rcases hi with rfl | rfl <;> exact absurd hb (by decide)
  · obtain rfl := List.mem_singleton.mp h
    rcases lowerCode_cases c.toNat caseRuns with hn | ⟨r, hr, hf, hl, _, hn⟩
    · rw [hn, Char.ofNat_toNat]
    · have hspan := List.all_eq_true.mp caseRuns_cased r hr
      have hcased := hb.2
      rw [isCased, toNat_lowerCode, hn, inRanges_of_spans hspan (by omega) (by omega)] at hcased
      exact absurd hcased (by simp)

section Barrier

variable {b : Char} (hb : IsBarrier b)

include hb

theorem meetsCased_append_barrier (xs ys : List Char) :
    meetsCased (xs ++ b :: ys) = meetsCased xs := by
  induction xs with
  | nil => simp [meetsCased, hb.1, hb.2]
  | cons c xs ih => rw [List.cons_append, meetsCased, meetsCased, ih]

private theorem lowerBetween_barrier_before (before far : List Char) (c : Char)
    (after : List Char) :
    lowerBetween (before ++ b :: far) c after = lowerBetween before c after := by
  rw [lowerBetween, lowerBetween, meetsCased_append_barrier hb]

private theorem lowerBetween_barrier_after (before : List Char) (c : Char)
    (after far : List Char) :
    lowerBetween before c (after ++ b :: far) = lowerBetween before c after := by
  rw [lowerBetween, lowerBetween, meetsCased_append_barrier hb]

private theorem lowerAfter_barrier (before far cs : List Char) :
    lowerAfter (before ++ b :: far) cs = lowerAfter before cs := by
  induction cs generalizing before with
  | nil => rfl
  | cons c rest ih =>
    rw [lowerAfter, lowerAfter, lowerBetween_barrier_before hb, ← List.cons_append, ih]

private theorem lowerAfter_append_barrier (hl : IsLower b) (before xs ys : List Char) :
    lowerAfter before (xs ++ b :: ys) = lowerAfter before xs ++ b :: lowerAfter [] ys := by
  induction xs generalizing before with
  | nil =>
    have hfar := lowerAfter_barrier hb [] before ys
    rw [List.nil_append] at hfar
    show lowerBetween before b ys ++ lowerAfter (b :: before) ys = b :: lowerAfter [] ys
    rw [lowerBetween_of_isLower hl, hfar]
    rfl
  | cons c xs ih =>
    rw [List.cons_append, lowerAfter, lowerAfter, lowerBetween_barrier_after hb, ih,
      List.append_assoc]

/-- No letter on one side of a barrier has a say in the small letters on the other. -/
theorem lower_append_barrier (hl : IsLower b) (xs ys : List Char) :
    lower (xs ++ b :: ys) = lower xs ++ b :: lower ys := by
  simp only [lower_eq, lowerAfter_append_barrier hb hl]

end Barrier

end TagQuery.Text
