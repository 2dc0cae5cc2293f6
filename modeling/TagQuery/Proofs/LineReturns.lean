import TagQuery.Proofs.ReadLines

/-!
Lines of a text and the returns at their ends. A line ends with a newline, which may have a
return before it; what is read of a line lacks one return more.

* `lineTexts`, `content`: a text cut after each newline, and a line without its end;
* `cutOnto_text`: what is cut from the bytes of a text, line by line;
* `forall_content_iff`: where the lines have no return to lose;
* `readLines_text`: **a line is read without its end and without one more return**, so all
  of a text but the ends of its lines is read exactly if it has no two returns before a
  newline and none at its end.
-/

namespace TagQuery.Text

/-- A text cut after each newline. The last line may have none. -/
def lineTexts : List Char → List (List Char)
  | [] => []
  | c :: cs =>
    if c = '\n' then [c] :: lineTexts cs
    else match lineTexts cs with
      | [] => [[c]]
      | line :: lines => (c :: line) :: lines

/-- Drops one return from the end of a text. -/
def chopReturn (cs : List Char) : List Char :=
  if cs.getLast? = some '\r' then cs.dropLast else cs

/-- A line without its end, be it a newline or a return and a newline. -/
def content (line : List Char) : List Char :=
  if line.getLast? = some '\n' then chopReturn line.dropLast else line

/-! ## Texts by their lines -/

/-- Induction on a text by its newlines, from the first one on. -/
theorem newline_induction {motive : List Char → Prop}
    (last : ∀ xs, '\n' ∉ xs → motive xs)
    (line : ∀ xs ys, '\n' ∉ xs → motive ys → motive (xs ++ '\n' :: ys)) (cs : List Char) :
    motive cs := by
  have hstart : ∀ xs, '\n' ∉ xs → motive (xs ++ cs) := by
    induction cs with
    | nil => simpa using last
    | cons c cs ih =>
      intro xs hxs
      by_cases hc : c = '\n'
      · subst hc
        exact line xs cs hxs (ih [] (by simp))
      · rw [← List.singleton_append, ← List.append_assoc]
        exact ih (xs ++ [c]) (by simp [hxs, Ne.symm hc])
  exact hstart [] (by simp)

theorem lineTexts_last {xs : List Char} (h : '\n' ∉ xs) :
    lineTexts xs = if xs = [] then [] else [xs] := by
  induction xs with
  | nil => rfl
  | cons c xs ih =>
    rw [List.mem_cons, not_or] at h
    rw [lineTexts, if_neg (Ne.symm h.1), ih h.2]
    cases xs with
    | nil => rfl
    | cons d xs => simp

theorem lineTexts_line {xs : List Char} (h : '\n' ∉ xs) (ys : List Char) :
    lineTexts (xs ++ '\n' :: ys) = (xs ++ ['\n']) :: lineTexts ys := by
  induction xs with
  | nil => rw [List.nil_append, lineTexts, if_pos rfl, List.nil_append]
  | cons c xs ih =>
    rw [List.mem_cons, not_or] at h
    rw [List.cons_append, lineTexts, if_neg (Ne.symm h.1), ih h.2]
    rfl

theorem content_last {xs : List Char} (h : '\n' ∉ xs) : content xs = xs := by
  rw [content, if_neg fun hlast => h (List.mem_of_getLast? hlast)]

@[simp] theorem content_line (xs : List Char) : content (xs ++ ['\n']) = chopReturn xs := by
  simp [content]

/-! ## Bytes -/

/-- A return at the end is dropped from the bytes as it is from the text. -/
theorem dropReturn_utf8Bytes (cs : List Char) :
    dropReturn (utf8Bytes cs).reverse = (utf8Bytes (chopReturn cs)).reverse := by
  by_cases h : cs.getLast? = some '\r'
  · obtain ⟨front, rfl⟩ := List.getLast?_eq_some_iff.mp h
    have hbyte : utf8Bytes ['\r'] = [carriageReturn] := by decide
    rw [chopReturn, if_pos h, List.dropLast_concat, utf8Bytes_append, hbyte, List.reverse_append,
      List.reverse_singleton, List.singleton_append, dropReturn, if_pos rfl]
  · rw [chopReturn, if_neg h]
    apply dropReturn_of_ne
    rw [List.head?_reverse]
    exact getLast?_utf8Bytes_ne h

/-- Without a newline all bytes belong to the last line, if there are any. -/
theorem cutOnto_last {bytes : List UInt8} (h : newline ∉ bytes) (done : List (List UInt8))
    (line : List UInt8) : cutOnto done line bytes = (if (bytes.reverse ++ line).isEmpty then done
      else (dropReturn (bytes.reverse ++ line)).reverse :: done).reverse := by
  induction bytes generalizing line with
  | nil => rfl
  | cons b bytes ih =>
    rw [List.mem_cons, not_or] at h
    rw [cutOnto, if_neg (Ne.symm h.1), ih h.2, List.reverse_cons, List.append_assoc]
    rfl

/-- **The bytes of a text are cut into lines as the text is.** -/
theorem cutOnto_text (cs : List Char) (done : List (List UInt8)) :
    cutOnto done [] (utf8Bytes cs)
      = done.reverse ++ (lineTexts cs).map fun line => utf8Bytes (chopReturn (content line)) := by
  induction cs using newline_induction generalizing done with
  | last xs h =>
    rw [cutOnto_last (newline_notMem_utf8Bytes h), List.append_nil, lineTexts_last h]
    by_cases hxs : xs = []
    · simp [hxs]
    · have hne : (utf8Bytes xs).reverse.isEmpty = false := by
        obtain ⟨c, xs, rfl⟩ := List.exists_cons_of_ne_nil hxs
        simp
      rw [if_neg hxs, hne, if_neg (by simp), dropReturn_utf8Bytes]
      simp [content_last h]
  | line xs ys h ih =>
    have hbyte : utf8Bytes ('\n' :: ys) = newline :: utf8Bytes ys := rfl
    rw [utf8Bytes_append, hbyte, cutOnto_line (newline_notMem_utf8Bytes h), List.append_nil,
      dropReturn_utf8Bytes, dropReturn_utf8Bytes, ih, lineTexts_line h]
    simp

/-! ## Returns that are lost -/

theorem chopReturn_eq_self_iff (cs : List Char) :
    chopReturn cs = cs ↔ cs.getLast? ≠ some '\r' := by
  unfold chopReturn
  split
  next h =>
    obtain ⟨front, rfl⟩ := List.getLast?_eq_some_iff.mp h
    simp
  next h => simp [h]

/-- A second return is left at the end if there are two. -/
theorem getLast?_chopReturn_iff (cs : List Char) :
    (chopReturn cs).getLast? = some '\r' ↔ ['\r', '\r'] <:+ cs := by
  unfold chopReturn
  constructor
  · split
    next h =>
      obtain ⟨front, rfl⟩ := List.getLast?_eq_some_iff.mp h
      rw [List.dropLast_concat]
      intro hlast
      obtain ⟨front, rfl⟩ := List.getLast?_eq_some_iff.mp hlast
      exact ⟨front, by simp⟩
    next h => exact fun hlast => absurd hlast h
  · rintro ⟨front, rfl⟩
    simp

/-- A part without newlines that stands before a newline stands within a line. -/
theorem append_newline_isInfix_iff {part xs : List Char} (hpart : '\n' ∉ part) (hxs : '\n' ∉ xs)
    (ys : List Char) :
    part ++ ['\n'] <:+: xs ++ '\n' :: ys ↔ part <:+ xs ∨ part ++ ['\n'] <:+: ys := by
  constructor
  · rintro ⟨before, after, h⟩
    have h : before ++ part ++ '\n' :: after = xs ++ '\n' :: ys := by simpa using h
    rcases List.append_eq_append_iff.mp h with ⟨rest, hfront, hback⟩ | ⟨rest, hfront, hback⟩
    · -- The line goes on behind the part with its newline, so with nothing.
      cases rest with
      | nil => exact .inl ⟨before, by simpa using hfront.symm⟩
      | cons c rest =>
        obtain ⟨rfl, _⟩ := List.cons.inj hback
        exact absurd (by simp [hfront]) hxs
    · cases rest with
      | nil => exact .inl ⟨before, by simpa using hfront⟩
      | cons c rest =>
        obtain ⟨rfl, rfl⟩ := List.cons.inj hback
        -- The part ends behind the newline of the line, so it starts there too.
        have hsuffix : part <:+ '\n' :: rest :=
          (List.suffix_or_suffix_of_suffix ⟨before, hfront⟩ ⟨xs, rfl⟩).resolve_right
            fun hback => hpart (hback.mem (List.mem_cons_self ..))
        rcases List.suffix_cons_iff.mp hsuffix with rfl | ⟨between, rfl⟩
        · exact absurd (List.mem_cons_self ..) hpart
        · exact .inr ⟨between, after, by simp⟩
  · rintro (⟨before, rfl⟩ | ⟨before, after, rfl⟩)
    · exact ⟨before, ys, by simp⟩
    · exact ⟨xs ++ '\n' :: before, after, by simp⟩

/-- The lines of a text that end in a return after their ends are dropped. -/
theorem forall_content_iff (cs : List Char) :
    (∀ line ∈ lineTexts cs, (content line).getLast? ≠ some '\r') ↔
      ¬['\r', '\r', '\n'] <:+: cs ∧ cs.getLast? ≠ some '\r' := by
  induction cs using newline_induction with
  | last xs h =>
    have hnone : ¬['\r', '\r', '\n'] <:+: xs := fun hpart => h (hpart.mem (by simp))
    rw [lineTexts_last h]
    by_cases hxs : xs = []
    · simp [hxs]
    · simp [hxs, hnone, content_last h]
  | line xs ys h ih =>
    have hreturns : '\n' ∉ ['\r', '\r'] := by decide
    have hlast : (xs ++ '\n' :: ys).getLast? = some '\r' ↔ ys.getLast? = some '\r' := by
      rw [List.getLast?_append_of_ne_nil _ (List.cons_ne_nil _ _), List.getLast?_cons]
      cases ys.getLast? <;> simp
    rw [lineTexts_line h, List.forall_mem_cons, content_line, ih, ne_eq, ne_eq, ne_eq,
      getLast?_chopReturn_iff, hlast, show ['\r', '\r', '\n'] = ['\r', '\r'] ++ ['\n'] from rfl,
      append_newline_isInfix_iff hreturns h, not_or, and_assoc]

/-- **A line is read without its end and without one more return.** Nothing else is lost, and
nothing at all exactly if no two returns stand before a newline and none at the end of the
text. -/
theorem readLines_text (s : String) :
    readLines (utf8Bytes s.toList)
      = some ((lineTexts s.toList).map fun line => String.ofList (chopReturn (content line))) ∧
    (readLines (utf8Bytes s.toList)
        = some ((lineTexts s.toList).map fun line => String.ofList (content line)) ↔
      ¬['\r', '\r', '\n'] <:+: s.toList ∧ s.toList.getLast? ≠ some '\r') := by
  have hread : readLines (utf8Bytes s.toList)
      = some ((lineTexts s.toList).map fun line => String.ofList (chopReturn (content line))) := by
    rw [readLines, cutLines, cutOnto_text, ← mapM_decodeUtf8, List.map_map]
    simp [Function.comp_def]
  refine ⟨hread, ?_⟩
  rw [hread, Option.some.injEq, List.map_inj_left, ← forall_content_iff]
  simp only [String.ofList_inj, chopReturn_eq_self_iff]

theorem second_return_lost :
    ¬∀ s : String, readLines (utf8Bytes s.toList)
      = some ((lineTexts s.toList).map fun line => String.ofList (content line)) := by
  intro h
  exact absurd (h "a\r\r\nb\r") (by decide +kernel)

end TagQuery.Text
