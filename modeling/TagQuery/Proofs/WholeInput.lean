import TagQuery.Proofs.LineReturns
import TagQuery.Run

/-!
Input that can be read. Each line is checked by itself, and all lines pass exactly if the
bytes as a whole are UTF-8: a newline is a character of its own wherever its byte stands,
and so is a return that a line loses.

* `IsUtf8`: characters one after the other, each by the bytes that may stand first, second
  and so on in it;
* `isUtf8_iff_exists_text`: these are the forms of the texts;
* `isUtf8_of_cutOnto`: bytes whose lines are UTF-8 are UTF-8;
* `valuesOrLines_input`: **input is read if and only if it is UTF-8, and otherwise none of
  its lines is.**
-/

namespace TagQuery

namespace Text

/-- A byte that goes on with a character. -/
def IsTail (b : UInt8) : Prop := 0x80 ≤ b.toNat ∧ b.toNat ≤ 0xBF

/-- The bytes of one character. After some first bytes the second one has fewer choices: the
others would make a longer form of a character than it needs, half of a surrogate pair, or a
number that is no character. -/
def IsCharacter : List UInt8 → Prop
  | [a] => a.toNat ≤ 0x7F
  | [a, b] => 0xC2 ≤ a.toNat ∧ a.toNat ≤ 0xDF ∧ IsTail b
  | [a, b, c] => 0xE0 ≤ a.toNat ∧ a.toNat ≤ 0xEF ∧ IsTail b ∧ IsTail c ∧
      (a.toNat = 0xE0 → 0xA0 ≤ b.toNat) ∧ (a.toNat = 0xED → b.toNat ≤ 0x9F)
  | [a, b, c, d] => 0xF0 ≤ a.toNat ∧ a.toNat ≤ 0xF4 ∧ IsTail b ∧ IsTail c ∧ IsTail d ∧
      (a.toNat = 0xF0 → 0x90 ≤ b.toNat) ∧ (a.toNat = 0xF4 → b.toNat ≤ 0x8F)
  | _ => False

inductive IsUtf8 : List UInt8 → Prop where
  | nil : IsUtf8 []
  | cons {first rest : List UInt8} : IsCharacter first → IsUtf8 rest → IsUtf8 (first ++ rest)

/-! ## Characters -/

theorem isCharacter_utf8EncodeChar (c : Char) : IsCharacter (String.utf8EncodeChar c) := by
  have hvalid : c.val.toNat < 0xD800 ∨ 0xDFFF < c.val.toNat ∧ c.val.toNat < 0x110000 := c.valid
  rw [String.utf8EncodeChar]
  split_ifs <;> simp only [IsCharacter, IsTail, UInt8.toNat_ofNat'] <;> omega

private theorem exists_char {n : Nat} (h : n.isValidChar) : ∃ x : Char, x.val.toNat = n :=
  ⟨Char.ofNat n, by rw [Char.ofNat, dif_pos h]; rfl⟩

private theorem ofNat_eq {b : UInt8} {n : Nat} (h : n = b.toNat) : UInt8.ofNat n = b := by
  rw [h, UInt8.ofNat_toNat]

/-- The bytes of a character give its number, and from the number come the same bytes. -/
theorem exists_char_of_isCharacter {bytes : List UInt8} (h : IsCharacter bytes) :
    ∃ x : Char, String.utf8EncodeChar x = bytes := by
  match bytes, h with
  | [a], h =>
    simp only [IsCharacter] at h
    have hvalid : a.toNat.isValidChar := .inl (by omega)
    obtain ⟨x, hx⟩ := exists_char hvalid
    refine ⟨x, ?_⟩
    simp only [String.utf8EncodeChar, hx]
    rw [if_pos h, ofNat_eq rfl]
  | [a, b], h =>
    simp only [IsCharacter, IsTail] at h
    have hvalid : ((a.toNat - 0xC0) * 0x40 + (b.toNat - 0x80)).isValidChar := .inl (by omega)
    obtain ⟨x, hx⟩ := exists_char hvalid
    refine ⟨x, ?_⟩
    simp only [String.utf8EncodeChar, hx]
    rw [if_neg (by omega), if_pos (by omega), ofNat_eq (b := a) (by omega),
      ofNat_eq (b := b) (by omega)]
  | [a, b, c], h =>
    simp only [IsCharacter, IsTail] at h
    have hvalid : ((a.toNat - 0xE0) * 0x1000 + (b.toNat - 0x80) * 0x40
        + (c.toNat - 0x80)).isValidChar := by
      rw [Nat.isValidChar]
      omega
    obtain ⟨x, hx⟩ := exists_char hvalid
    refine ⟨x, ?_⟩
    simp only [String.utf8EncodeChar, hx]
    rw [if_neg (by omega), if_neg (by omega), if_pos (by omega), ofNat_eq (b := a) (by omega),
      ofNat_eq (b := b) (by omega), ofNat_eq (b := c) (by omega)]
  | [a, b, c, d], h =>
    simp only [IsCharacter, IsTail] at h
    have hvalid : ((a.toNat - 0xF0) * 0x40000 + (b.toNat - 0x80) * 0x1000
        + (c.toNat - 0x80) * 0x40 + (d.toNat - 0x80)).isValidChar := by
      rw [Nat.isValidChar]
      omega
    obtain ⟨x, hx⟩ := exists_char hvalid
    refine ⟨x, ?_⟩
    simp only [String.utf8EncodeChar, hx]
    rw [if_neg (by omega), if_neg (by omega), if_neg (by omega), ofNat_eq (b := a) (by omega),
      ofNat_eq (b := b) (by omega), ofNat_eq (b := c) (by omega), ofNat_eq (b := d) (by omega)]

/-! ## Bytes of texts -/

theorem isUtf8_utf8Bytes (cs : List Char) : IsUtf8 (utf8Bytes cs) := by
  induction cs with
  | nil => exact .nil
  | cons c cs ih => exact .cons (isCharacter_utf8EncodeChar c) ih

theorem isUtf8_iff_exists_text (bytes : List UInt8) :
    IsUtf8 bytes ↔ ∃ s : String, bytes = utf8Bytes s.toList := by
  constructor
  · intro h
    induction h with
    | nil => exact ⟨"", rfl⟩
    | cons hfirst _ ih =>
      obtain ⟨x, rfl⟩ := exists_char_of_isCharacter hfirst
      obtain ⟨s, rfl⟩ := ih
      exact ⟨String.ofList (x :: s.toList), by simp⟩
  · rintro ⟨s, rfl⟩
    exact isUtf8_utf8Bytes s.toList

theorem IsUtf8.append {xs ys : List UInt8} (hxs : IsUtf8 xs) (hys : IsUtf8 ys) :
    IsUtf8 (xs ++ ys) := by
  induction hxs with
  | nil => exact hys
  | cons hfirst _ ih =>
    rw [List.append_assoc]
    exact .cons hfirst ih

theorem decodeUtf8_isSome_iff (bytes : List UInt8) : (decodeUtf8 bytes).isSome ↔ IsUtf8 bytes := by
  rw [isUtf8_iff_exists_text]
  constructor
  · intro h
    obtain ⟨s, hs⟩ := Option.isSome_iff_exists.mp h
    rw [decodeUtf8, String.fromUTF8?] at hs
    split at hs
    next hvalid =>
      obtain ⟨cs, hcs⟩ := hvalid
      refine ⟨String.ofList cs, ?_⟩
      rw [String.toList_ofList]
      exact List.toByteArray_inj.mp hcs
    next => cases hs
  · rintro ⟨s, rfl⟩
    rw [decodeUtf8_utf8Bytes]
    rfl

/-! ## Lines -/

/-- A return that a line has lost leaves it as good or bad as it was. -/
theorem isUtf8_of_dropReturn {line : List UInt8} (h : IsUtf8 (dropReturn line).reverse) :
    IsUtf8 line.reverse := by
  cases line with
  | nil => exact .nil
  | cons b line =>
    rw [dropReturn] at h
    split at h
    next hb =>
      rw [hb, List.reverse_cons]
      have hreturn : IsUtf8 [carriageReturn] := isUtf8_utf8Bytes ['\r']
      exact h.append hreturn
    next => exact h

theorem mem_cutOnto {done : List (List UInt8)} {l : List UInt8} (h : l ∈ done)
    (line bytes : List UInt8) : l ∈ cutOnto done line bytes := by
  induction bytes generalizing done line with
  | nil =>
    rw [cutOnto, List.mem_reverse]
    split
    · exact h
    · exact List.mem_cons_of_mem _ h
  | cons b bytes ih =>
    rw [cutOnto]
    split
    · exact ih (List.mem_cons_of_mem _ h) []
    · exact ih h (b :: line)

/-- **Bytes whose lines are UTF-8 are UTF-8**, the bytes of the line that is open included. -/
theorem isUtf8_of_cutOnto {done : List (List UInt8)} {line bytes : List UInt8}
    (h : ∀ l ∈ cutOnto done line bytes, IsUtf8 l) : IsUtf8 (line.reverse ++ bytes) := by
  induction bytes generalizing done line with
  | nil =>
    rw [List.append_nil]
    by_cases hline : line.isEmpty
    · rw [List.isEmpty_iff.mp hline]
      exact .nil
    · apply isUtf8_of_dropReturn
      apply h
      simp [cutOnto, hline]
  | cons b bytes ih =>
    rw [cutOnto] at h
    split at h
    next hb =>
      -- Two returns at most are lost before a newline.
      have hdropped := h _ (mem_cutOnto (List.mem_cons_self ..) [] bytes)
      have hline : IsUtf8 line.reverse := isUtf8_of_dropReturn (isUtf8_of_dropReturn hdropped)
      have hnewline : IsUtf8 [newline] := isUtf8_utf8Bytes ['\n']
      rw [hb]
      exact hline.append (hnewline.append (ih h))
    next =>
      have hrest := ih h
      rw [List.reverse_cons, List.append_assoc] at hrest
      exact hrest

theorem mapM_isSome_iff {α β : Type} (f : α → Option β) (xs : List α) :
    (xs.mapM f).isSome ↔ ∀ x ∈ xs, (f x).isSome := by
  induction xs with
  | nil => simp
  | cons x xs ih =>
    rw [List.mapM_cons, List.forall_mem_cons, ← ih]
    cases hx : f x with
    | none => simp
    | some y => cases hxs : xs.mapM f <;> simp

theorem readLines_isSome_iff (bytes : List UInt8) : (readLines bytes).isSome ↔ IsUtf8 bytes := by
  have hlines : (readLines bytes).isSome ↔ ∀ l ∈ cutLines bytes, IsUtf8 l := by
    simp only [readLines, mapM_isSome_iff, decodeUtf8_isSome_iff]
  rw [hlines]
  constructor
  · intro h
    have hopen : IsUtf8 (List.reverse [] ++ bytes) := isUtf8_of_cutOnto h
    exact hopen
  · intro h l hl
    obtain ⟨s, rfl⟩ := (isUtf8_iff_exists_text bytes).mp h
    rw [cutLines, cutOnto_text] at hl
    obtain ⟨line, _, rfl⟩ := List.mem_map.mp hl
    exact isUtf8_utf8Bytes _

end Text

/-- **Input is read if and only if it is UTF-8.** Otherwise all of it is refused, with a failure
that names the input, whatever lines stand before the bytes at fault. -/
theorem valuesOrLines_input (input : List UInt8) :
    ((∃ lines, (valuesOrLines [] input).2 = .ok lines) ↔ Text.IsUtf8 input) ∧
    ((valuesOrLines [] input).2
        = .error (.io "<stdin>" "stream did not contain valid UTF-8") ↔ ¬Text.IsUtf8 input) := by
  rw [← Text.readLines_isSome_iff]
  cases h : Text.readLines input with
  | none => simp [valuesOrLines, h, ReadFault.message]
  | some lines => simp [valuesOrLines, h]

end TagQuery
