import TagQuery.Pattern.Matcher

/-!
Looking for bytes finds characters. A text is searched by the bytes of its UTF-8
form, and a match might start or end inside a character.

* `utf8EncodeChar_append_inj`: the bytes of a character are no start of those of
  another one, so the first character of a text can be told from its bytes;
* `utf8Bytes_isInfix_iff`: by that and since only the first byte of a character
  looks like a first byte, the bytes of `part` stand in those of `text` exactly if
  `part` stands in `text`.
-/

namespace TagQuery

@[simp] theorem utf8Bytes_nil : utf8Bytes [] = [] := rfl

@[simp] theorem utf8Bytes_cons (c : Char) (cs : List Char) :
    utf8Bytes (c :: cs) = String.utf8EncodeChar c ++ utf8Bytes cs := rfl

@[simp] theorem utf8Bytes_append (xs ys : List Char) :
    utf8Bytes (xs ++ ys) = utf8Bytes xs ++ utf8Bytes ys :=
  List.flatMap_append

/-! ## Where a character ends -/

private theorem utf8DecodeChar?_append (c : Char) (rest : List UInt8) :
    (String.utf8EncodeChar c ++ rest).toByteArray.utf8DecodeChar? 0 = some c := by
  rw [List.toByteArray_append]
  exact ByteArray.utf8DecodeChar?_utf8EncodeChar_append

theorem utf8EncodeChar_append_inj {c d : Char} {xs ys : List UInt8}
    (h : String.utf8EncodeChar c ++ xs = String.utf8EncodeChar d ++ ys) : c = d ∧ xs = ys := by
  have hc : some c = some d := by
    rw [← utf8DecodeChar?_append c xs, h, utf8DecodeChar?_append d ys]
  obtain rfl := Option.some.inj hc
  exact ⟨rfl, List.append_cancel_left h⟩

theorem utf8Bytes_isPrefix_iff (part text : List Char) :
    utf8Bytes part <+: utf8Bytes text ↔ part <+: text := by
  constructor
  · intro h
    induction part generalizing text with
    | nil => exact List.nil_prefix
    | cons c part ih =>
      obtain ⟨rest, h⟩ := h
      rw [utf8Bytes_cons, List.append_assoc] at h
      cases text with
      | nil =>
        rw [utf8Bytes_nil, List.append_eq_nil_iff] at h
        exact absurd h.1 String.utf8EncodeChar_ne_nil
      | cons d text =>
        rw [utf8Bytes_cons] at h
        obtain ⟨rfl, hrest⟩ := utf8EncodeChar_append_inj h
        exact (List.prefix_cons_inj c).mpr (ih text ⟨rest, hrest⟩)
  · rintro ⟨rest, rfl⟩
    exact ⟨utf8Bytes rest, (utf8Bytes_append part rest).symm⟩

/-! ## Where a character starts -/

private theorem isUTF8FirstByte_iff {c : Char} {before after : List UInt8} {b : UInt8}
    (h : String.utf8EncodeChar c = before ++ b :: after) :
    b.IsUTF8FirstByte ↔ before = [] := by
  have hi : before.length < (String.utf8EncodeChar c).length := by
    rw [h, List.length_append, List.length_cons]
    omega
  have hb : (String.utf8EncodeChar c)[before.length] = b := by simp [h]
  rw [← hb, UInt8.isUTF8FirstByte_getElem_utf8EncodeChar, List.length_eq_zero_iff]

/-- The bytes of a character start in no other place inside a character than at
its start. -/
private theorem eq_nil_of_inside {c d : Char} {before inside after rest : List UInt8}
    (hd : String.utf8EncodeChar d = before ++ inside) (hi : inside ≠ [])
    (h : String.utf8EncodeChar c ++ after = inside ++ rest) : before = [] := by
  obtain ⟨b, inside, rfl⟩ := List.exists_cons_of_ne_nil hi
  obtain ⟨first, bytes, hc⟩ := List.exists_cons_of_ne_nil (String.utf8EncodeChar_ne_nil (c := c))
  have hb : first = b := by
    rw [hc] at h
    exact (List.cons.inj h).1
  have hfirst : first.IsUTF8FirstByte := (isUTF8FirstByte_iff hc).mpr (Eq.refl [])
  rw [hb] at hfirst
  exact (isUTF8FirstByte_iff hd).mp hfirst

private theorem isInfix_of_utf8Bytes {c : Char} {part text : List Char}
    (h : utf8Bytes (c :: part) <:+: utf8Bytes text) : c :: part <:+: text := by
  induction text with
  | nil =>
    have hnil := List.infix_nil.mp h
    rw [utf8Bytes_cons, List.append_eq_nil_iff] at hnil
    exact absurd hnil.1 String.utf8EncodeChar_ne_nil
  | cons d text ih =>
    obtain ⟨before, after, h⟩ := h
    rw [utf8Bytes_cons d text, List.append_assoc, List.append_eq_append_iff] at h
    rcases h with ⟨inside, hd, h⟩ | ⟨more, -, h⟩
    · -- The match starts in the bytes of `d` or right after them.
      by_cases hi : inside = []
      · subst hi
        exact (ih ⟨[], after, h⟩).trans (List.suffix_cons d text).isInfix
      · have hbefore : before = [] := by
          rw [utf8Bytes_cons, List.append_assoc] at h
          exact eq_nil_of_inside hd hi h
        subst hbefore
        have hp : utf8Bytes (c :: part) <+: utf8Bytes (d :: text) := by
          rw [utf8Bytes_cons d text, hd]
          exact ⟨after, h⟩
        exact ((utf8Bytes_isPrefix_iff _ _).mp hp).isInfix
    · rw [← List.append_assoc] at h
      exact (ih ⟨more, after, h.symm⟩).trans (List.suffix_cons d text).isInfix

/-- **A match of bytes is a match of characters.** -/
theorem utf8Bytes_isInfix_iff (part text : List Char) :
    utf8Bytes part <:+: utf8Bytes text ↔ part <:+: text := by
  constructor
  · intro h
    cases part with
    | nil => exact List.nil_infix
    | cons c part => exact isInfix_of_utf8Bytes h
  · rintro ⟨before, after, rfl⟩
    exact ⟨utf8Bytes before, utf8Bytes after, by simp⟩

end TagQuery
