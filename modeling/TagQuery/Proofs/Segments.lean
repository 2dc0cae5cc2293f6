import Mathlib.Data.List.DropRight
import TagQuery.Proofs.ScanSteps

/-!
A query read by its segments, without a scan: which characters are quoted is
counted, the text is cut at every unquoted space and comma, and each segment is
sifted and cut at its colons by itself.

* `Reading.components` is this reading;
* `follows_flush`, `follows_move`: a cut of the scan ends a segment, and every
  other step goes one character on inside it;
* `follows_scan`: hence after every text the scan stands where the reading of that
  text stands;
* `parse_eq_components`: the scan and the reading give the same components.
-/

namespace TagQuery

namespace Reading

/-! ## The reading -/

/-- A character of a query, and whether it is quoted. -/
structure Glyph where
  char : Char
  quoted : Bool
  deriving DecidableEq

abbrev Segment := List Glyph

/-- Does an odd number of quotes stand before the character at place `i`? -/
def isQuoted (cs : List Char) (i : Nat) : Bool := (cs.take i).count '"' % 2 = 1

def glyphs (cs : List Char) : List Glyph := cs.mapIdx fun i c => ⟨c, isQuoted cs i⟩

/-- An unquoted space or comma. -/
def isCut (g : Glyph) : Bool := !g.quoted && (g.char = ' ' || g.char = ',')

def segments (cs : List Char) : List Segment := (glyphs cs).splitOnP isCut

/-- The characters after the last colon. -/
def sinceColon (kept : List Char) : List Char := kept.rtakeWhile (· ≠ ':')

/-- Is a dash after these characters the first sign of a word? -/
def opensWord (word : List Char) : Bool := word.all Text.isBlank || word.getLast? = some ' '

/-- Is the character deleted from a segment of which `kept` is kept so far? -/
def isDeleted (kept : List Char) (g : Glyph) : Bool :=
  g.char = '"' || !g.quoted && (g.char = '$' || g.char = '-' && opensWord (sinceColon kept))

/-- The characters of a segment, those kept and those deleted. -/
structure Sifted where
  kept : List Char := []
  deleted : List Char := []

def Sifted.add (p : Sifted) (g : Glyph) : Sifted :=
  if isDeleted p.kept g then { p with deleted := p.deleted ++ [g.char] }
  else { p with kept := p.kept ++ [g.char] }

def sift (seg : Segment) : Sifted := seg.foldl Sifted.add {}

/-- The texts between the colons of a segment. There is always one. -/
def texts (seg : Segment) : List (List Char) := (sift seg).kept.splitOn ':'

/-- A text as the pieces of a term. -/
def pieces (text : List Char) : List String :=
  if text.isEmpty then [] else [String.ofList text]

/-- The component of a segment: the last text is its value and the one before it, if
there is one, its name. A single empty text is none. -/
def component? (seg : Segment) (m : Modifiers) : Option Component :=
  match (texts seg).reverse with
  | [] | [[]] => none
  | [text] => some (.term ⟨pieces text, m⟩)
  | text :: name :: _ =>
    some (.filter ⟨canonicalName (String.ofList name), ⟨pieces text, {}⟩, m⟩)

def isSilent (seg : Segment) : Bool := (component? seg {}).isNone

/-- The segments whose signs count for `seg`: itself and the silent ones directly
before it. -/
def reach (before : List Segment) (seg : Segment) : List Segment :=
  before.rtakeWhile isSilent ++ [seg]

def modifiers (segs : List Segment) : Modifiers where
  excluded := segs.any fun seg => (sift seg).deleted.contains '-'
  exact := segs.any fun seg => (sift seg).deleted.contains '$'

def emitted (segs : List Segment) : List Component :=
  segs.zipIdx.filterMap fun (seg, i) => component? seg (modifiers (reach (segs.take i) seg))

/-- The components of a lower-cased query, read by its segments. -/
def components (cs : List Char) : List Component := emitted (segments cs)

/-! ## The reading, one character longer -/

theorem isQuoted_append (cs : List Char) (c : Char) {i : Nat} (h : i ≤ cs.length) :
    isQuoted (cs ++ [c]) i = isQuoted cs i := by
  simp [isQuoted, List.take_append_of_le_length h]

theorem glyphs_append (cs : List Char) (c : Char) :
    glyphs (cs ++ [c]) = glyphs cs ++ [⟨c, isQuoted cs cs.length⟩] := by
  unfold glyphs
  rw [List.mapIdx_append]
  congr 1
  · apply List.mapIdx_eq_mapIdx_iff.mpr
    intro i hi
    rw [isQuoted_append cs c hi.le]
  · simp [isQuoted_append]

theorem splitOnP_append_of_pos {α : Type} {p : α → Bool} {x : α} (hx : p x = true) (xs : List α) :
    (xs ++ [x]).splitOnP p = xs.splitOnP p ++ [[]] := by
  rw [List.splitOnP_append_cons xs [] hx, List.splitOnP_nil]

private theorem splitOnP_append_cases {α : Type} (p : α → Bool) (xs : List α) :
    ∃ front last, xs.splitOnP p = front ++ [last] ∧
      ∀ x, p x = false → (xs ++ [x]).splitOnP p = front ++ [last ++ [x]] := by
  induction xs with
  | nil =>
    refine ⟨[], [], rfl, fun x hx => ?_⟩
    simp [List.splitOnP_cons_eq_if_modifyHead, hx]
  | cons y xs ih =>
    obtain ⟨front, last, h, hsnoc⟩ := ih
    simp only [List.cons_append, List.splitOnP_cons_eq_if_modifyHead]
    by_cases hy : p y = true
    · refine ⟨[] :: front, last, by simp [hy, h], fun x hx => ?_⟩
      simp [hy, hsnoc x hx]
    · cases front with
      | nil =>
        refine ⟨[], y :: last, by simp [hy, h], fun x hx => ?_⟩
        simp [hy, hsnoc x hx]
      | cons w front =>
        refine ⟨(y :: w) :: front, last, by simp [hy, h], fun x hx => ?_⟩
        simp [hy, hsnoc x hx]

theorem splitOnP_append_of_neg {α : Type} {p : α → Bool} {x : α} (hx : p x = false)
    {xs : List α} {front : List (List α)} {last : List α} (h : xs.splitOnP p = front ++ [last]) :
    (xs ++ [x]).splitOnP p = front ++ [last ++ [x]] := by
  obtain ⟨front', last', h', hsnoc⟩ := splitOnP_append_cases p xs
  obtain ⟨rfl, hl⟩ := List.append_inj' (h'.symm.trans h) rfl
  obtain rfl := (List.cons.inj hl).1
  exact hsnoc x hx

theorem isQuoted_length_append (cs : List Char) (c : Char) :
    isQuoted (cs ++ [c]) (cs ++ [c]).length
      = if c = '"' then !isQuoted cs cs.length else isQuoted cs cs.length := by
  simp only [isQuoted, List.take_length, List.count_append]
  by_cases hc : c = '"'
  · subst hc
    simp only [List.count_cons_self, List.count_nil, ↓reduceIte]
    rw [← decide_not, decide_eq_decide]
    omega
  · rw [if_neg hc, List.count_cons_of_ne hc, List.count_nil, Nat.add_zero]

theorem segments_append (cs : List Char) (c : Char) {done : List Segment} {cur : Segment}
    (h : segments cs = done ++ [cur]) :
    segments (cs ++ [c]) = if isCut ⟨c, isQuoted cs cs.length⟩ then done ++ [cur, []]
      else done ++ [cur ++ [⟨c, isQuoted cs cs.length⟩]] := by
  rw [segments, glyphs_append]
  split
  next hc =>
    rw [splitOnP_append_of_pos hc, ← segments, h]
    simp
  next hc => exact splitOnP_append_of_neg (by simpa using hc) h

theorem sift_append (seg : Segment) (g : Glyph) : sift (seg ++ [g]) = (sift seg).add g := by
  simp [sift]

theorem modifiers_append (segs : List Segment) (seg : Segment) :
    modifiers (segs ++ [seg]) = ⟨(modifiers segs).excluded || (sift seg).deleted.contains '-',
      (modifiers segs).exact || (sift seg).deleted.contains '$'⟩ := by
  simp [modifiers]

theorem emitted_append (segs : List Segment) (seg : Segment) :
    emitted (segs ++ [seg])
      = emitted segs ++ (component? seg (modifiers (reach segs seg))).toList := by
  unfold emitted
  rw [List.zipIdx_append, List.filterMap_append]
  congr 1
  · apply List.filterMap_congr
    rintro ⟨s, i⟩ hi
    have hlt := (List.mem_zipIdx' hi).1
    simp only
    rw [List.take_append_of_le_length hlt.le]
  · simp only [Nat.zero_add, List.zipIdx_singleton, List.filterMap_cons, List.take_left,
      List.filterMap_nil]
    cases component? seg (modifiers (reach segs seg)) <;> rfl

/-- The component of a segment, by its last text and the texts before it. -/
theorem component?_eq {seg : Segment} {names : List (List Char)} {text : List Char}
    (h : texts seg = names ++ [text]) (m : Modifiers) :
    component? seg m = match names.getLast? with
      | none => if text = [] then none else some (.term ⟨pieces text, m⟩)
      | some name =>
        some (.filter ⟨canonicalName (String.ofList name), ⟨pieces text, {}⟩, m⟩) := by
  unfold component?
  rw [h, List.reverse_append]
  rcases List.eq_nil_or_concat names with rfl | ⟨front, name, rfl⟩
  · cases text <;> simp
  · simp

end Reading

open Reading

/-! ## The scan along the segments -/

/-- The scan stands inside the segment `cur`, the segments of `done` behind it. -/
structure Follows (s : Scan) (done : List Segment) (cur : Segment) : Prop where
  found : s.found.reverse = emitted done
  word : sinceColon (sift cur).kept = s.word.reverse
  texts : ∃ names, texts cur = names ++ [s.word.reverse] ∧
    s.name? = names.getLast?.map fun name => canonicalName (String.ofList name)
  pending : s.pending = modifiers (reach done cur)

theorem follows_empty : Follows {} [] [] where
  found := rfl
  word := rfl
  texts := ⟨[], rfl, rfl⟩
  pending := rfl

/-- The component of the segment so far is the one that the scan would end with. -/
theorem component?_of_follows {s : Scan} {done : List Segment} {cur : Segment}
    (h : Follows s done cur) (m : Modifiers) :
    component? cur m = match s.name? with
      | none => if s.word = [] then none else some (.term ⟨s.pieces, m⟩)
      | some name => some (.filter ⟨name, ⟨s.pieces, {}⟩, m⟩) := by
  obtain ⟨names, htexts, hname⟩ := h.texts
  have hp : Reading.pieces s.word.reverse = s.pieces := by
    simp [Reading.pieces, Scan.pieces]
  rw [component?_eq htexts, hname, hp]
  cases names.getLast? <;> simp

theorem isSilent_of_follows {s : Scan} {done : List Segment} {cur : Segment}
    (h : Follows s done cur) : isSilent cur = true ↔ s.name? = none ∧ s.word = [] := by
  rw [isSilent, component?_of_follows h]
  cases s.name? with
  | none => by_cases hw : s.word = [] <;> simp [hw]
  | some name => simp

private theorem modifiers_reach_silent {done : List Segment} {cur : Segment}
    (h : isSilent cur = true) :
    modifiers (reach (done ++ [cur]) []) = modifiers (reach done cur) := by
  rw [reach, List.rtakeWhile_concat_pos _ _ _ h, modifiers_append]
  simp [reach, sift]

private theorem modifiers_reach_emitting {done : List Segment} {cur : Segment}
    (h : ¬isSilent cur = true) : modifiers (reach (done ++ [cur]) []) = {} := by
  rw [reach, List.rtakeWhile_concat_neg _ _ _ h]
  rfl

/-- A cut ends the segment and starts an empty one. -/
theorem follows_flush {s : Scan} {done : List Segment} {cur : Segment}
    (h : Follows s done cur) : Follows s.flush (done ++ [cur]) [] := by
  have hc := component?_of_follows h (modifiers (reach done cur))
  have hs := isSilent_of_follows h
  rw [← h.pending] at hc
  cases hn : s.name? with
  | none =>
    by_cases hw : s.word = []
    · have hsilent := hs.mpr ⟨hn, hw⟩
      rw [Scan.flush_idle hn hw]
      refine ⟨?_, ?_, ⟨[], ?_, ?_⟩, ?_⟩
      · rw [emitted_append, ← h.pending, hc, hn, h.found]
        simp [hw]
      · rw [hw]
        rfl
      · rw [hw]
        rfl
      · rw [hn]
        rfl
      · rw [modifiers_reach_silent hsilent, h.pending]
    · have hloud : ¬isSilent cur = true := fun hsilent => hw (hs.mp hsilent).2
      rw [Scan.flush_term hn hw]
      refine ⟨?_, rfl, ⟨[], rfl, ?_⟩, ?_⟩
      · rw [emitted_append, ← h.pending, hc, hn, List.reverse_cons, h.found]
        simp [hw]
      · simp [hn]
      · exact (modifiers_reach_emitting hloud).symm
  | some name =>
    have hloud : ¬isSilent cur = true := by
      intro hsilent
      rw [hn] at hs
      simpa using (hs.mp hsilent).1
    rw [Scan.flush_filter hn]
    refine ⟨?_, rfl, ⟨[], rfl, rfl⟩, ?_⟩
    · rw [emitted_append, ← h.pending, hc, hn, List.reverse_cons, h.found]
      rfl
    · exact (modifiers_reach_emitting hloud).symm

/-- A deleted character leaves the word alone and is remembered as a sign. -/
private theorem follows_delete {s s' : Scan} {done : List Segment} {cur : Segment} {g : Glyph}
    (h : Follows s done cur) (hd : isDeleted (sift cur).kept g = true)
    (hfound : s'.found = s.found) (hword : s'.word = s.word) (hname : s'.name? = s.name?)
    (hpending : s'.pending =
      ⟨s.pending.excluded || '-' = g.char, s.pending.exact || '$' = g.char⟩) :
    Follows s' done (cur ++ [g]) := by
  have hsift : sift (cur ++ [g]) = { sift cur with deleted := (sift cur).deleted ++ [g.char] } := by
    rw [sift_append, Sifted.add, if_pos hd]
  refine ⟨?_, ?_, ?_, ?_⟩
  · rw [hfound, h.found]
  · rw [hsift, hword]
    exact h.word
  · rw [Reading.texts, hsift, hword, hname]
    exact h.texts
  · rw [hpending, h.pending, reach, reach, modifiers_append, modifiers_append, hsift]
    simp [Bool.or_assoc]

/-- A kept character is no sign. -/
private theorem pending_keep (done : List Segment) {cur : Segment} {g : Glyph}
    (hd : isDeleted (sift cur).kept g = false) :
    sift (cur ++ [g]) = { sift cur with kept := (sift cur).kept ++ [g.char] } ∧
      modifiers (reach done (cur ++ [g])) = modifiers (reach done cur) := by
  have hsift : sift (cur ++ [g]) = { sift cur with kept := (sift cur).kept ++ [g.char] } := by
    rw [sift_append, Sifted.add, if_neg (by simp [hd])]
  refine ⟨hsift, ?_⟩
  rw [reach, reach, modifiers_append, modifiers_append, hsift]

private theorem opensWord_reverse (s : Scan) : opensWord s.word.reverse = s.atWordStart := by
  simp [opensWord, Scan.atWordStart]

/-- **Step lemma.** A step that is no cut stays in the segment, one character on. -/
theorem follows_move {s s' : Scan} {c : Char} {done : List Segment} {cur : Segment}
    (h : Follows s done cur) (hm : Scan.Move s c s') (hcut : isCut ⟨c, s.quoted⟩ = false) :
    Follows s' done (cur ++ [⟨c, s.quoted⟩]) := by
  cases hm with
  | quote => exact follows_delete h rfl rfl rfl rfl (by simp)
  | exclude hq hw =>
    have hd : isDeleted (sift cur).kept ⟨'-', s.quoted⟩ = true := by
      simp [isDeleted, h.word, opensWord_reverse, hq, hw]
    exact follows_delete h hd rfl rfl rfl (by simp)
  | exact hq => exact follows_delete h (by simp [isDeleted, hq]) rfl rfl rfl (by simp)
  | cut hq hc =>
    exfalso
    simp [isCut, hq] at hcut
    rcases hc with rfl | rfl <;> simp at hcut
  | colon =>
    have hd : isDeleted (sift cur).kept ⟨':', s.quoted⟩ = false := by simp [isDeleted]
    obtain ⟨hsift, hmod⟩ := pending_keep done hd
    obtain ⟨names, htexts, _⟩ := h.texts
    refine ⟨h.found, ?_, ⟨names ++ [s.word.reverse], ?_, ?_⟩, ?_⟩
    · rw [hsift]
      exact List.rtakeWhile_concat_neg _ _ _ (by simp)
    · rw [Reading.texts, hsift, List.splitOn_eq_splitOnP, splitOnP_append_of_pos (by simp)]
      exact congrArg (· ++ [[]]) htexts
    · simp [Scan.openFilter]
    · rw [hmod]
      exact h.pending
  | keep hquote hcolon hplain =>
    have hd : isDeleted (sift cur).kept ⟨c, s.quoted⟩ = false := by
      cases hq : s.quoted with
      | true => simp [isDeleted, hquote]
      | false =>
        obtain ⟨hdollar, _, _, hdash⟩ := hplain hq
        by_cases hc : c = '-'
        · simp [isDeleted, h.word, opensWord_reverse, hc, hdash hc]
        · simp [isDeleted, hquote, hdollar, hc]
    obtain ⟨hsift, hmod⟩ := pending_keep done hd
    obtain ⟨names, htexts, hname⟩ := h.texts
    refine ⟨h.found, ?_, ⟨names, ?_, hname⟩, ?_⟩
    · have hw := h.word
      rw [sinceColon] at hw
      rw [hsift, sinceColon, List.rtakeWhile_concat_pos _ _ _ (by simpa using hcolon), hw]
      simp [Scan.append]
    · rw [Reading.texts, hsift, List.splitOn_eq_splitOnP,
        splitOnP_append_of_neg (by simpa using hcolon) htexts]
      simp [Scan.append]
    · rw [hmod]
      exact h.pending

/-- A cut is the flush of the scan. -/
private theorem step_cut {s : Scan} {c : Char} (h : isCut ⟨c, s.quoted⟩ = true) :
    s.step c = s.flush := by
  obtain ⟨hq, hc⟩ : s.quoted = false ∧ (c = ' ' ∨ c = ',') := by simpa [isCut] using h
  rcases hc with rfl | rfl <;> simp [Scan.step, hq]

/-- **Run lemma.** After every text the scan stands where the reading of it stands. -/
theorem follows_scan (cs : List Char) :
    (cs.foldl Scan.step {}).quoted = isQuoted cs cs.length ∧
      ∃ done cur, segments cs = done ++ [cur] ∧ Follows (cs.foldl Scan.step {}) done cur := by
  induction cs using List.reverseRecOn with
  | nil => exact ⟨rfl, [], [], rfl, follows_empty⟩
  | append_singleton cs c ih =>
    obtain ⟨hq, done, cur, hsegs, h⟩ := ih
    rw [List.foldl_append]
    refine ⟨by rw [isQuoted_length_append, ← hq]; exact Scan.quoted_step _ c, ?_⟩
    rw [segments_append cs c hsegs, ← hq]
    split
    next hc =>
      refine ⟨done ++ [cur], [], by simp, ?_⟩
      rw [List.foldl_cons, step_cut hc]
      exact follows_flush h
    next hc => exact ⟨done, _, rfl, follows_move h (Scan.move_step _ c) (by simpa using hc)⟩

/-- **The scan reads a query by its segments.** -/
theorem parse_eq_components (query : String) :
    parse query = Reading.components (Text.lower query.toList) := by
  obtain ⟨_, done, cur, hsegs, h⟩ := follows_scan (Text.lower query.toList)
  rw [parse, Scan.components, (follows_flush h).found, Reading.components, hsegs]

end TagQuery
