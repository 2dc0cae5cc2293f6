/-!
Values inside SQL `LIKE` patterns. A backslash makes the next character plain,
so escaping writes one before each of the three characters with a meaning. The text
is gone through once for each of the three.
-/

namespace TagQuery.Like

/-- Writes a backslash before each occurrence of one character. -/
def escapeEach (special : Char) (cs : List Char) : List Char :=
  cs.flatMap fun c => if c = special then ['\\', special] else [c]

/-- Backslashes are first, or those that the other two are given would be doubled. -/
def escapeChars (cs : List Char) : List Char :=
  escapeEach '%' (escapeEach '_' (escapeEach '\\' cs))

def escape (value : String) : String := String.ofList (escapeChars value.toList)

def isSpecial (c : Char) : Bool := c = '\\' || c = '_' || c = '%'

def escapeChar (c : Char) : List Char := if isSpecial c then ['\\', c] else [c]

/-- Going through the text three times comes to escaping each character by itself. -/
theorem escapeChars_eq (cs : List Char) : escapeChars cs = cs.flatMap escapeChar := by
  unfold escapeChars escapeEach
  rw [List.flatMap_assoc, List.flatMap_assoc]
  congr 1
  funext c
  by_cases hb : c = '\\'
  · subst hb
    rfl
  · by_cases hu : c = '_'
    · subst hu
      rfl
    · by_cases hp : c = '%' <;> simp [escapeChar, isSpecial, hb, hu, hp]

theorem escapeChars_cons (c : Char) (cs : List Char) :
    escapeChars (c :: cs) = escapeChar c ++ escapeChars cs := by
  simp [escapeChars_eq]

theorem escapeChars_append (xs ys : List Char) :
    escapeChars (xs ++ ys) = escapeChars xs ++ escapeChars ys := by
  simp [escapeChars_eq]

@[simp] theorem toList_escape (value : String) :
    (escape value).toList = escapeChars value.toList := by
  simp [escape]

theorem escape_append (value value' : String) :
    escape (value ++ value') = escape value ++ escape value' := by
  rw [← String.toList_inj]
  simp [escapeChars_append]

/-- Escaping piece by piece is escaping the whole. -/
theorem escape_join (values : List String) :
    escape (String.join values) = String.join (values.map escape) := by
  induction values with
  | nil => rfl
  | cons value values ih =>
    rw [String.join_cons, escape_append, ih, List.map_cons, String.join_cons]

end TagQuery.Like
