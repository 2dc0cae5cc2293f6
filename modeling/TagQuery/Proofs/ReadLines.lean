import Mathlib.Data.List.Infix
import TagQuery.Proofs.Utf8
import TagQuery.Text.Lines

/-!
Lines that are written are read back. The bytes are cut at newlines and stripped of
returns before they are read as characters, so it matters that neither byte stands
inside a longer character.

* `eq_of_mem_utf8Bytes`: a byte below 128 in the form of a text is a character of it;
* `cutOnto_line`: what is cut off at the first newline;
* `readLines_terminated`: **lines without a return at their end are read back, each
  with either ending.**
-/

namespace TagQuery

theorem decodeUtf8_utf8Bytes (s : String) : Text.decodeUtf8 (utf8Bytes s.toList) = some s := by
  have hbytes : (utf8Bytes s.toList).toByteArray = s.toByteArray := String.utf8Encode_toList
  rw [Text.decodeUtf8, hbytes, String.fromUTF8?, dif_pos s.isValidUTF8]
  rfl

/-- All bytes of a character that takes more than one are above 127. -/
private theorem toNat_of_mem_utf8EncodeChar {c : Char} {b : UInt8} (hb : b.toNat < 128)
    (h : b ∈ String.utf8EncodeChar c) : c.toNat = b.toNat := by
  have hc : c.toNat = c.val.toNat := rfl
  rw [String.utf8EncodeChar] at h
  split_ifs at h <;> simp only [List.mem_cons, List.not_mem_nil, or_false] at h
  · obtain rfl := h
    rw [UInt8.toNat_ofNat']
    omega
  · rcases h with rfl | rfl <;> rw [UInt8.toNat_ofNat'] at hb <;> omega
  · rcases h with rfl | rfl | rfl <;> rw [UInt8.toNat_ofNat'] at hb <;> omega
  · rcases h with rfl | rfl | rfl | rfl <;> rw [UInt8.toNat_ofNat'] at hb <;> omega

/-- A byte below 128 stands for itself wherever it is. -/
theorem eq_of_mem_utf8Bytes {cs : List Char} {b : UInt8} (hb : b.toNat < 128)
    (h : b ∈ utf8Bytes cs) : Char.ofNat b.toNat ∈ cs := by
  obtain ⟨c, hc, h⟩ := List.mem_flatMap.mp h
  rw [← toNat_of_mem_utf8EncodeChar hb h, Char.ofNat_toNat]
  exact hc

namespace Text

/-- How a line ends. -/
inductive LineEnd where
  | newline
  | returnNewline
  deriving DecidableEq, Repr

def LineEnd.returns : LineEnd → List UInt8
  | newline => []
  | returnNewline => [carriageReturn]

/-- A text without a newline in it and without a return at its end. -/
structure IsLine (s : String) : Prop where
  newlineless : '\n' ∉ s.toList
  returnless : s.toList.getLast? ≠ some '\r'

/-- The bytes of lines, each with its own ending. -/
def terminated (lines : List (String × LineEnd)) : List UInt8 :=
  lines.flatMap fun (s, e) => utf8Bytes s.toList ++ e.returns ++ [newline]

/-! ## One line -/

theorem newline_notMem_utf8Bytes {cs : List Char} (h : '\n' ∉ cs) : newline ∉ utf8Bytes cs :=
  fun hmem => h (eq_of_mem_utf8Bytes (by decide) hmem)

/-- Only a return ends in the byte of a return. -/
theorem getLast?_utf8Bytes_ne {cs : List Char} (h : cs.getLast? ≠ some '\r') :
    (utf8Bytes cs).getLast? ≠ some carriageReturn := by
  intro hlast
  rcases List.eq_nil_or_concat cs with hs | ⟨front, c, hs⟩
  · simp [hs] at hlast
  · rw [List.concat_eq_append] at hs
    have hne : utf8Bytes [c] ≠ [] := by simp
    rw [hs, utf8Bytes_append, List.getLast?_append_of_ne_nil _ hne] at hlast
    have hmem := eq_of_mem_utf8Bytes (by decide) (List.mem_of_getLast? hlast)
    obtain rfl : '\r' = c := List.mem_singleton.mp hmem
    apply h
    simp [hs]

theorem dropReturn_of_ne {line : List UInt8} (h : line.head? ≠ some carriageReturn) :
    dropReturn line = line := by
  cases line with
  | nil => rfl
  | cons b line =>
    have hb : b ≠ carriageReturn := by simpa using h
    rw [dropReturn, if_neg hb]

/-- At the end of a line one return is dropped, and there is no second one. -/
theorem dropReturn_dropReturn {s : String} (h : IsLine s) (e : LineEnd) :
    dropReturn (dropReturn (utf8Bytes s.toList ++ e.returns).reverse)
      = (utf8Bytes s.toList).reverse := by
  have hlast : (utf8Bytes s.toList).reverse.head? ≠ some carriageReturn := by
    rw [List.head?_reverse]
    exact getLast?_utf8Bytes_ne h.returnless
  cases e with
  | newline =>
    rw [LineEnd.returns, List.append_nil, dropReturn_of_ne hlast, dropReturn_of_ne hlast]
  | returnNewline =>
    have hdrop : dropReturn (carriageReturn :: (utf8Bytes s.toList).reverse)
        = (utf8Bytes s.toList).reverse := by
      rw [dropReturn, if_pos rfl]
    rw [LineEnd.returns, List.reverse_append, List.reverse_singleton, List.singleton_append, hdrop,
      dropReturn_of_ne hlast]

/-- Up to the first newline all bytes belong to the line. -/
theorem cutOnto_line {bytes : List UInt8} (h : newline ∉ bytes) (done : List (List UInt8))
    (line rest : List UInt8) :
    cutOnto done line (bytes ++ newline :: rest)
      = cutOnto ((dropReturn (dropReturn (bytes.reverse ++ line))).reverse :: done) [] rest := by
  induction bytes generalizing line with
  | nil => simp [cutOnto]
  | cons b bytes ih =>
    obtain ⟨hb, hbytes⟩ := not_or.mp (mt List.mem_cons.mpr h)
    rw [List.cons_append, cutOnto, if_neg (Ne.symm hb), ih hbytes]
    simp

/-! ## All lines -/

theorem cutOnto_terminated {lines : List (String × LineEnd)} (h : ∀ l ∈ lines, IsLine l.1)
    (done : List (List UInt8)) :
    cutOnto done [] (terminated lines)
      = done.reverse ++ lines.map fun l => utf8Bytes l.1.toList := by
  induction lines generalizing done with
  | nil => simp [terminated, cutOnto]
  | cons l lines ih =>
    obtain ⟨s, e⟩ := l
    have hs : IsLine s := h (s, e) (List.mem_cons_self ..)
    have hnewline : newline ∉ utf8Bytes s.toList ++ e.returns := by
      rw [List.mem_append, not_or]
      refine ⟨newline_notMem_utf8Bytes hs.newlineless, ?_⟩
      cases e <;> decide
    rw [terminated, List.flatMap_cons, List.append_assoc, List.singleton_append,
      cutOnto_line hnewline, List.append_nil, dropReturn_dropReturn hs, ← terminated,
      ih fun x hx => h x (List.mem_cons_of_mem _ hx)]
    simp

theorem mapM_decodeUtf8 (texts : List String) :
    (texts.map fun s => utf8Bytes s.toList).mapM decodeUtf8 = some texts := by
  induction texts with
  | nil => rfl
  | cons s texts ih =>
    rw [List.map_cons, List.mapM_cons, ih, decodeUtf8_utf8Bytes]
    rfl

/-- **Lines are read back**, whatever their endings. -/
theorem readLines_terminated {lines : List (String × LineEnd)} (h : ∀ l ∈ lines, IsLine l.1) :
    readLines (terminated lines) = some (lines.map Prod.fst) := by
  rw [readLines, cutLines, cutOnto_terminated h, ← mapM_decodeUtf8 (lines.map Prod.fst),
    List.map_map]
  rfl

end Text

end TagQuery
