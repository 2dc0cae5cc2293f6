import TagQuery.Proofs.Lowercase
import TagQuery.Proofs.Segments

/-!
Two queries with separators in between. Outside quotes a separator ends the first one:
all that goes on into the second are the modifiers that are still pending.

* `Scan.carry`: a scan with components already behind it and modifiers in wait;
  `step_carry`, `foldl_carry`: it goes on as it would alone, and only the first
  component that it finds gets the modifiers;
* `flush_rests`: at a separator there is nothing else to carry;
* `parse_joined`: **the components of both queries, with the modifiers that are pending
  after the first set on the first component of the second.**
-/

namespace TagQuery

def Modifiers.join (m n : Modifiers) : Modifiers :=
  ⟨m.excluded || n.excluded, m.exact || n.exact⟩

/-- Sets modifiers besides those that the component has. -/
def Component.mark (m : Modifiers) : Component → Component
  | term t => term { t with modifiers := t.modifiers.join m }
  | filter f => filter { f with modifiers := f.modifiers.join m }

/-- Sets modifiers on the first component, if there is one. -/
def markFirst (m : Modifiers) : List Component → List Component
  | [] => []
  | c :: cs => c.mark m :: cs

/-- The modifiers that no component of the query has used. -/
def pendingAfter (query : String) : Modifiers :=
  ((Text.lower query.toList).foldl Scan.step {}).flush.pending

theorem markFirst_append (m : Modifiers) {xs : List Component} (h : xs ≠ [])
    (ys : List Component) : markFirst m (xs ++ ys) = markFirst m xs ++ ys := by
  obtain ⟨c, xs, rfl⟩ := List.exists_cons_of_ne_nil h
  rfl

namespace Scan

/-! ## A scan with something behind it -/

/-- The state of a scan that had `found` behind it and `m` in wait when it began. The
modifiers wait until the first component is found. -/
def carry (found : List Component) (m : Modifiers) (s : Scan) : Scan :=
  { s with
    found := (markFirst m s.found.reverse).reverse ++ found
    pending := if s.found.isEmpty then s.pending.join m else s.pending }

theorem carry_empty (found : List Component) (m : Modifiers) :
    carry found m {} = { found, pending := m } := by
  simp [carry, markFirst, Modifiers.join]

/-- The modifiers in wait go to the component that is found first, and to no other. -/
private theorem markFirst_found (m : Modifiers) (make : Modifiers → Component)
    (hmake : ∀ p, (make p).mark m = make (p.join m)) (p : Modifiers) (found : List Component) :
    (markFirst m (make p :: found).reverse).reverse
      = make (if found.isEmpty then p.join m else p) :: (markFirst m found.reverse).reverse := by
  cases found with
  | nil => simp [markFirst, hmake]
  | cons c found =>
    have hne : (c :: found).reverse ≠ [] := by simp
    rw [List.reverse_cons (a := make p), markFirst_append m hne, List.reverse_append]
    rfl

theorem flush_carry (found : List Component) (m : Modifiers) (s : Scan) :
    (carry found m s).flush = carry found m s.flush := by
  have hname : (carry found m s).name? = s.name? := rfl
  cases hn : s.name? with
  | none =>
    by_cases hw : s.word = []
    · rw [flush_idle (hname.trans hn) hw, flush_idle hn hw]
    · have hfound := markFirst_found m (fun p => .term ⟨s.pieces, p⟩) (fun _ => rfl)
        s.pending s.found
      rw [flush_term (hname.trans hn) hw, flush_term hn hw, carry, carry, hfound]
      rfl
  | some name =>
    have hfound := markFirst_found m (fun p => .filter ⟨name, ⟨s.pieces, {}⟩, p⟩)
      (fun _ => rfl) s.pending s.found
    rw [flush_filter (hname.trans hn), flush_filter hn, carry, carry, hfound]
    rfl

/-- **Step lemma.** What is behind a scan does not change its step. -/
theorem step_carry (found : List Component) (m : Modifiers) (s : Scan) (c : Char) :
    (carry found m s).step c = carry found m (s.step c) := by
  have hstart : (carry found m s).atWordStart = s.atWordStart := rfl
  have hquoted : (carry found m s).quoted = s.quoted := rfl
  unfold step
  rw [hstart, hquoted]
  -- A quote, a colon and a quoted character change neither what is found nor what is pending.
  split
  · rfl
  split
  · rfl
  split
  · rfl
  -- A dash and a dollar are pending besides the modifiers in wait.
  split
  · cases hf : s.found.isEmpty <;> simp [carry, Modifiers.join, hf]
  split
  · cases hf : s.found.isEmpty <;> simp [carry, Modifiers.join, hf]
  split
  · exact flush_carry found m s
  · rfl

/-- **Run lemma.** -/
theorem foldl_carry (found : List Component) (m : Modifiers) (s : Scan) (cs : List Char) :
    cs.foldl step (carry found m s) = carry found m (cs.foldl step s) :=
  List.foldl_hom (carry found m) fun s c => (step_carry found m s c)

theorem components_carry (found : List Component) (m : Modifiers) (s : Scan) :
    (carry found m s).components = found.reverse ++ markFirst m s.components := by
  rw [components, flush_carry, carry, components]
  simp

/-! ## Separators -/

/-- The end of a component leaves nothing behind but what is found and what is pending. -/
theorem flush_rests {s : Scan} (hq : s.quoted = false) :
    s.flush = { found := s.flush.found, pending := s.flush.pending } := by
  cases hn : s.name? with
  | none =>
    by_cases hw : s.word = []
    · rw [flush_idle hn hw]
      obtain ⟨found, word, quoted, name?, pending⟩ := s
      obtain rfl : name? = none := hn
      obtain rfl : word = [] := hw
      obtain rfl : quoted = false := hq
      rfl
    · rw [flush_term hn hw, hq, hn]
  | some name => rw [flush_filter hn, hq]

/-- At rest a separator changes nothing. -/
theorem foldl_separators (found : List Component) (pending : Modifiers) {cs : List Char}
    (hcs : ∀ c ∈ cs, c = ' ' ∨ c = ',') :
    cs.foldl step { found, pending } = { found, pending } := by
  induction cs with
  | nil => rfl
  | cons c cs ih =>
    rw [List.foldl_cons, step_separator rfl (hcs c (List.mem_cons_self ..)), flush_idle rfl rfl,
      ih fun x hx => hcs x (List.mem_cons_of_mem _ hx)]

end Scan

/-! ## Queries -/

theorem separator_lower {c : Char} (hc : c = ' ' ∨ c = ',') : Text.IsBarrier c ∧ Text.IsLower c := by
  rcases hc with rfl | rfl <;> decide

theorem lower_separators {cs : List Char} (hcs : ∀ c ∈ cs, c = ' ' ∨ c = ',')
    (ys : List Char) : Text.lower (cs ++ ys) = cs ++ Text.lower ys := by
  induction cs with
  | nil => rfl
  | cons c cs ih =>
    obtain ⟨hbarrier, hlower⟩ := separator_lower (hcs c (List.mem_cons_self ..))
    have hfirst := Text.lower_append_barrier hbarrier hlower [] (cs ++ ys)
    rw [ih fun x hx => hcs x (List.mem_cons_of_mem _ hx)] at hfirst
    exact hfirst

/-- The two queries are lower-cased each by itself. -/
theorem lower_joined (xs ys : List Char) {cs : List Char} (hne : cs ≠ [])
    (hcs : ∀ c ∈ cs, c = ' ' ∨ c = ',') :
    Text.lower (xs ++ cs ++ ys) = Text.lower xs ++ cs ++ Text.lower ys := by
  obtain ⟨c, cs, rfl⟩ := List.exists_cons_of_ne_nil hne
  obtain ⟨hbarrier, hlower⟩ := separator_lower (hcs c (List.mem_cons_self ..))
  rw [List.append_assoc, List.cons_append, Text.lower_append_barrier hbarrier hlower,
    lower_separators fun x hx => hcs x (List.mem_cons_of_mem _ hx)]
  simp

/-- A query with an even number of quotes leaves the scan outside quotes. -/
theorem quoted_scan {cs : List Char} (h : cs.count '"' % 2 = 0) :
    ((Text.lower cs).foldl Scan.step {}).quoted = false := by
  rw [(follows_scan (Text.lower cs)).1, Reading.isQuoted, List.take_length,
    Text.count_lower (by decide), h]
  rfl

/-- **Queries with separators in between are read one after the other.** Only the
modifiers that are pending after the first reach the second, and there the first
component. -/
theorem parse_joined {first separators second : String}
    (hquotes : first.toList.count '"' % 2 = 0) (hne : separators ≠ "")
    (hseparators : ∀ c ∈ separators.toList, c = ' ' ∨ c = ',') :
    parse (first ++ separators ++ second)
      = parse first ++ markFirst (pendingAfter first) (parse second) := by
  have hne : separators.toList ≠ [] := by rwa [ne_eq, String.toList_eq_nil_iff]
  obtain ⟨c, cs, hcs⟩ := List.exists_cons_of_ne_nil hne
  have hrest := Scan.flush_rests (quoted_scan hquotes)
  rw [parse, String.toList_append, String.toList_append, lower_joined _ _ hne hseparators]
  rw [hcs, List.forall_mem_cons] at hseparators
  rw [hcs, List.foldl_append, List.foldl_append, List.foldl_cons,
    Scan.step_separator (quoted_scan hquotes) hseparators.1, hrest,
    Scan.foldl_separators _ _ hseparators.2, ← Scan.carry_empty, Scan.foldl_carry,
    Scan.components_carry]
  rfl

/-- The marks wait over an empty pair of quotes for the first component of the second
query, and the sigma before them is final. -/
theorem dangling_marks_carried :
    "ΑΣ -$ \"\"".toList.count '"' % 2 = 0 ∧ " , " ≠ "" ∧
    (∀ c ∈ " , ".toList, c = ' ' ∨ c = ',') ∧
    parse ("ΑΣ -$ \"\"" ++ " , " ++ "a:B -c")
      = [.term ⟨["ας"], {}⟩, .filter ⟨"artist", ⟨["b"], {}⟩, ⟨true, true⟩⟩,
        .term ⟨["c"], ⟨true, false⟩⟩] := by
  have hquotes : "ΑΣ -$ \"\"".toList.count '"' % 2 = 0 := by decide
  have hseparators : ∀ c ∈ " , ".toList, c = ' ' ∨ c = ',' := by simp
  refine ⟨hquotes, by decide, hseparators, ?_⟩
  rw [parse_joined hquotes (by decide) hseparators]
  decide +kernel

end TagQuery
