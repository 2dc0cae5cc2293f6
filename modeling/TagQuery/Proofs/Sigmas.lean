import Mathlib.Data.List.Forall2
import TagQuery.Proofs.Lowercase

/-!
Capital sigmas. They are the only characters whose small letter hangs on what stands
around them, so lower-casing comes in two steps: each capital sigma is settled, that is
written as the small letter that its place asks for, and then all characters are
lower-cased by themselves.

* `lower_eq_flatMap`: the two steps;
* `settleWithin_append`: a part of a text is settled by itself if what stands around it
  is kept in sight;
* `settled_isInfix_lower`: so a part of a text is lower-cased within the text as it is
  settled there;
* `sameButSigma_settled`: and two settled forms of one text differ in small sigmas only;
* `settleWithin_of_not_endsOpen`, `settleWithin_of_endsOpen`: what comes after a text has a
  say in one of its sigmas or in none.
-/

namespace TagQuery.Text

/-- The small letter of a capital sigma between the characters before it, nearest first,
and those after it. -/
def sigmaBetween (before after : List Char) : Char :=
  if meetsCased before && !meetsCased after then 'ς' else 'σ'

/-- Settles the capital sigmas of a text that stands between two others. -/
def settleWithin (before after : List Char) : List Char → List Char
  | [] => []
  | c :: rest =>
    (if c = 'Σ' then sigmaBetween before (rest ++ after) else c)
      :: settleWithin (c :: before) after rest

/-- The text with its capital sigmas written as small letters. -/
def settle (cs : List Char) : List Char := settleWithin [] [] cs

def settled (s : String) : String := String.ofList (settle s.toList)

theorem toList_settled (s : String) : (settled s).toList = settle s.toList :=
  String.toList_ofList

/-! ## Lower-casing in two steps -/

theorem lowerBetween_eq (before after : List Char) (c : Char) :
    lowerBetween before c after = lowerChar (if c = 'Σ' then sigmaBetween before after else c) := by
  have hfinal : lowerChar 'ς' = ['ς'] := by decide
  have hother : lowerChar 'σ' = ['σ'] := by decide
  unfold lowerBetween sigmaBetween
  split
  · split
    · rw [hfinal]
    · rw [hother]
  · rfl

private theorem lowerAfter_eq_flatMap (before cs : List Char) :
    lowerAfter before cs = (settleWithin before [] cs).flatMap lowerChar := by
  induction cs generalizing before with
  | nil => rfl
  | cons c rest ih =>
    rw [lowerAfter, settleWithin, List.flatMap_cons, lowerBetween_eq, List.append_nil, ih]

theorem lower_eq_flatMap (cs : List Char) : lower cs = (settle cs).flatMap lowerChar := by
  rw [lower_eq, lowerAfter_eq_flatMap]
  rfl

/-! ## Parts of a text -/

theorem settleWithin_append (before after xs ys : List Char) :
    settleWithin before after (xs ++ ys)
      = settleWithin before (ys ++ after) xs ++ settleWithin (xs.reverse ++ before) after ys := by
  induction xs generalizing before with
  | nil => rfl
  | cons x xs ih =>
    rw [List.cons_append, settleWithin, settleWithin, ih]
    simp

theorem settle_append₃ (before text after : List Char) :
    settle (before ++ text ++ after) = settleWithin [] (text ++ after) before
      ++ settleWithin before.reverse after text
      ++ settleWithin (text.reverse ++ before.reverse) [] after := by
  rw [settle, settleWithin_append, settleWithin_append]
  simp

/-- A part of a text is lower-cased within it as it is settled there. -/
theorem settled_isInfix_lower (before text after : List Char) :
    (settleWithin before.reverse after text).flatMap lowerChar
      <:+: lower (before ++ text ++ after) := by
  rw [lower_eq_flatMap, settle_append₃, List.flatMap_append, List.flatMap_append]
  exact ⟨_, _, rfl⟩

/-! ## What settling changes -/

def IsSmallSigma (c : Char) : Prop := c = 'σ' ∨ c = 'ς'

instance : DecidablePred IsSmallSigma := fun c => inferInstanceAs (Decidable (c = 'σ' ∨ c = 'ς'))

theorem isSmallSigma_sigmaBetween (before after : List Char) :
    IsSmallSigma (sigmaBetween before after) := by
  unfold sigmaBetween
  split
  · exact .inr rfl
  · exact .inl rfl

theorem lowerChar_smallSigma {c : Char} (h : IsSmallSigma c) : lowerChar c = [c] := by
  rcases h with rfl | rfl <;> decide

/-- What a character is settled as: a capital sigma as one of the forms, any other
character as itself. -/
def SettlesAs (form : Char → Prop) (c d : Char) : Prop := if c = 'Σ' then form d else d = c

theorem SettlesAs.eq_or {form : Char → Prop} {c d : Char} (h : SettlesAs form c d) :
    d = c ∨ c = 'Σ' ∧ form d := by
  unfold SettlesAs at h
  split at h
  next hc => exact .inr ⟨hc, h⟩
  · exact .inl h

/-- Settling neither makes nor breaks a sign. -/
theorem SettlesAs.eq_of_sign {form : Char → Prop} (hform : ∀ d, form d → IsSmallSigma d)
    {c d : Char} (h : SettlesAs form c d) (hs : IsSign c ∨ IsSign d) : d = c := by
  rcases h.eq_or with h | ⟨rfl, hd⟩
  · exact h
  · have hsigma : ¬IsSign d := by rcases hform d hd with rfl | rfl <;> decide
    exact absurd (hs.resolve_left (by decide)) hsigma

theorem settlesAs_settleWithin (before after cs : List Char) :
    List.Forall₂ (SettlesAs IsSmallSigma) cs (settleWithin before after cs) := by
  induction cs generalizing before with
  | nil => exact .nil
  | cons c rest ih =>
    refine .cons ?_ (ih _)
    unfold SettlesAs
    split
    · exact isSmallSigma_sigmaBetween _ _
    · rfl

/-- The small letters that the capital sigmas of a text become. -/
def sigmaForms (cs : List Char) : List Char :=
  ((cs.zip (settle cs)).filter fun s => s.1 = 'Σ').map Prod.snd

theorem isSmallSigma_of_mem_sigmaForms {cs : List Char} {d : Char} (h : d ∈ sigmaForms cs) :
    IsSmallSigma d := by
  obtain ⟨⟨c, d⟩, hmem, rfl⟩ := List.mem_map.mp h
  obtain ⟨hzip, hc⟩ := List.mem_filter.mp hmem
  have hsettles := (List.forall₂_iff_zip.mp (settlesAs_settleWithin [] [] cs)).2 hzip
  rwa [SettlesAs, if_pos (by simpa using hc)] at hsettles

theorem settlesAs_settle (cs : List Char) :
    List.Forall₂ (SettlesAs (· ∈ sigmaForms cs)) cs (settle cs) := by
  have hall : List.Forall₂ (SettlesAs IsSmallSigma) cs (settle cs) :=
    settlesAs_settleWithin [] [] cs
  rw [List.forall₂_iff_zip] at hall ⊢
  refine ⟨hall.1, fun {c d} hmem => ?_⟩
  have hsettles := hall.2 hmem
  unfold SettlesAs at hsettles ⊢
  split
  next hc =>
    have hfilter : (c, d) ∈ (cs.zip (settle cs)).filter fun s => s.1 = 'Σ' :=
      List.mem_filter.mpr ⟨hmem, by simp [hc]⟩
    exact List.mem_map_of_mem hfilter
  next hc => rwa [if_neg hc] at hsettles

/-- All capital sigmas of the two texts become the same small letter. -/
def SigmasAgree (xs ys : List Char) : Prop := ∀ c ∈ sigmaForms xs, ∀ d ∈ sigmaForms ys, c = d

/-- Two characters are the same, or both are small sigmas. -/
def SameButSigma (c d : Char) : Prop := d = c ∨ IsSmallSigma c ∧ IsSmallSigma d

/-- However its sigmas are settled, the lower-cased forms of a text differ in small sigmas
only. -/
theorem sameButSigma_settled (before after before' after' cs : List Char) :
    List.Forall₂ SameButSigma ((settleWithin before after cs).flatMap lowerChar)
      ((settleWithin before' after' cs).flatMap lowerChar) := by
  induction cs generalizing before before' with
  | nil => exact .nil
  | cons c rest ih =>
    rw [settleWithin, settleWithin, List.flatMap_cons, List.flatMap_cons]
    refine List.rel_append ?_ (ih _ _)
    by_cases hc : c = 'Σ'
    · have hone := isSmallSigma_sigmaBetween before (rest ++ after)
      have htwo := isSmallSigma_sigmaBetween before' (rest ++ after')
      rw [if_pos hc, if_pos hc, lowerChar_smallSigma hone, lowerChar_smallSigma htwo]
      exact .cons (.inr ⟨hone, htwo⟩) .nil
    · rw [if_neg hc, if_neg hc, List.forall₂_same]
      exact fun x _ => .inl rfl

/-! ## What comes after a text -/

/-- A look for a cased character goes on behind a text only if it passes all of it over. -/
theorem meetsCased_append (xs ys : List Char) :
    meetsCased (xs ++ ys) = if xs.all isCaseIgnorable then meetsCased ys else meetsCased xs := by
  induction xs with
  | nil => rfl
  | cons c xs ih =>
    rw [List.cons_append, meetsCased, meetsCased, List.all_cons, ih]
    cases isCaseIgnorable c <;> simp

theorem meetsCased_sigma (cs : List Char) : meetsCased ('Σ' :: cs) = true := by
  rw [meetsCased, if_neg (by decide +kernel)]
  decide +kernel

/-- Of what comes after a text only the first character that is not passed over counts. -/
theorem settleWithin_congr {after after' : List Char} (h : meetsCased after = meetsCased after')
    (before cs : List Char) : settleWithin before after cs = settleWithin before after' cs := by
  induction cs generalizing before with
  | nil => rfl
  | cons c rest ih =>
    have hsigma : sigmaBetween before (rest ++ after) = sigmaBetween before (rest ++ after') := by
      rw [sigmaBetween, sigmaBetween, meetsCased_append, meetsCased_append, h]
    rw [settleWithin, settleWithin, hsigma, ih]

/-- The last capital sigma of the text stands after a letter, and what stands after it is
passed over: the text alone does not say whether it is final. -/
def EndsOpen (cs : List Char) : Prop :=
  ∃ front back, cs = front ++ 'Σ' :: back ∧ meetsCased front.reverse = true ∧
    ∀ c ∈ back, isCaseIgnorable c = true

private theorem settleWithin_of_not_open {before cs : List Char}
    (h : ∀ front back, cs = front ++ 'Σ' :: back → (∀ c ∈ back, isCaseIgnorable c = true) →
      meetsCased (front.reverse ++ before) = false) (after after' : List Char) :
    settleWithin before after cs = settleWithin before after' cs := by
  induction cs generalizing before with
  | nil => rfl
  | cons c rest ih =>
    have hrest : settleWithin (c :: before) after rest
        = settleWithin (c :: before) after' rest := by
      refine ih fun front back hcs hback => ?_
      simpa using h (c :: front) back (by rw [hcs]; rfl) hback
    rw [settleWithin, settleWithin, hrest]
    split
    next hc =>
      congr 1
      by_cases hopen : rest.all isCaseIgnorable = true
      · have hbefore := h [] rest (by rw [hc]; rfl) (by simpa using hopen)
        rw [List.reverse_nil, List.nil_append] at hbefore
        simp [sigmaBetween, hbefore]
      · rw [sigmaBetween, sigmaBetween, meetsCased_append, meetsCased_append, if_neg hopen,
          if_neg hopen]
    · rfl

/-- Nothing that comes after a text has a say in it unless it ends open. -/
theorem settleWithin_of_not_endsOpen {cs : List Char} (h : ¬EndsOpen cs)
    (after after' : List Char) : settleWithin [] after cs = settleWithin [] after' cs := by
  apply settleWithin_of_not_open
  intro front back hcs hback
  rw [List.append_nil, ← Bool.not_eq_true]
  exact fun hcased => h ⟨front, back, hcs, hcased, hback⟩

/-- Nothing but sigmas is settled, and none of them is passed over. -/
theorem settleWithin_of_ignorable {cs : List Char} (h : ∀ c ∈ cs, isCaseIgnorable c = true)
    (before after : List Char) : settleWithin before after cs = cs := by
  induction cs generalizing before with
  | nil => rfl
  | cons c rest ih =>
    rw [List.forall_mem_cons] at h
    have hc : c ≠ 'Σ' := by
      rintro rfl
      exact absurd h.1 (by decide +kernel)
    rw [settleWithin, if_neg hc, ih h.2]

/-- The small letter of a capital sigma that stands after a letter. -/
def sigmaBefore (after : List Char) : Char := if meetsCased after then 'σ' else 'ς'

theorem isSmallSigma_sigmaBefore (after : List Char) : IsSmallSigma (sigmaBefore after) := by
  unfold sigmaBefore
  split
  · exact .inl rfl
  · exact .inr rfl

theorem sigmaBefore_eq_iff (after after' : List Char) :
    sigmaBefore after = sigmaBefore after' ↔ meetsCased after = meetsCased after' := by
  cases h : meetsCased after <;> cases h' : meetsCased after' <;> simp [sigmaBefore, h, h']

/-- In a text that ends open one sigma hangs on what comes after. -/
theorem settleWithin_of_endsOpen {cs : List Char} (h : EndsOpen cs) :
    ∃ front back, ∀ after, settleWithin [] after cs = front ++ sigmaBefore after :: back := by
  obtain ⟨front, back, rfl, hcased, hback⟩ := h
  have hall : back.all isCaseIgnorable = true := by simpa using hback
  refine ⟨settleWithin [] ('Σ' :: back) front, back, fun after => ?_⟩
  have hfront : settleWithin [] ('Σ' :: back ++ after) front
      = settleWithin [] ('Σ' :: back) front := by
    apply settleWithin_congr
    rw [List.cons_append, meetsCased_sigma, meetsCased_sigma]
  rw [settleWithin_append, hfront, settleWithin, if_pos rfl, settleWithin_of_ignorable hback,
    List.append_nil, sigmaBetween, sigmaBefore, hcased, meetsCased_append, if_pos hall]
  cases meetsCased after <;> rfl

/-! ## Parts of texts that go together -/

section Together

variable {α β : Type} {R : α → β → Prop}

theorem exists_append_of_forall₂ {xs xs' : List α} {ys : List β}
    (h : List.Forall₂ R (xs ++ xs') ys) :
    ∃ zs zs', ys = zs ++ zs' ∧ List.Forall₂ R xs zs ∧ List.Forall₂ R xs' zs' := by
  refine ⟨ys.take xs.length, ys.drop xs.length, (List.take_append_drop ..).symm, ?_, ?_⟩
  · simpa using List.forall₂_take xs.length h
  · simpa using List.forall₂_drop xs.length h

theorem forall_mem_of_forall₂ {p : α → Prop} {q : β → Prop} {xs : List α} {ys : List β}
    (h : List.Forall₂ R xs ys) (hpq : ∀ x y, R x y → p x → q y) (hp : ∀ x ∈ xs, p x) :
    ∀ y ∈ ys, q y := by
  induction h with
  | nil => simp
  | cons hxy _ ih =>
    rw [List.forall_mem_cons] at hp ⊢
    exact ⟨hpq _ _ hxy hp.1, ih hp.2⟩

/-- A part of the first list goes together with a part of the second. -/
theorem exists_isInfix_of_forall₂ {xs part : List α} {ys : List β} (h : List.Forall₂ R xs ys)
    (hpart : part <:+: xs) : ∃ part', part' <:+: ys ∧ List.Forall₂ R part part' := by
  obtain ⟨before, after, rfl⟩ := hpart
  obtain ⟨_, after', rfl, hfront, _⟩ := exists_append_of_forall₂ h
  obtain ⟨before', part', rfl, _, hboth⟩ := exists_append_of_forall₂ hfront
  exact ⟨part', ⟨before', after', rfl⟩, hboth⟩

end Together

end TagQuery.Text
