import Mathlib.Algebra.GroupWithZero.Nat
import Mathlib.Data.Finset.Card
import Mathlib.Logic.Function.Basic
import TagQuery.Proofs.Segments
import TagQuery.Query.Cache

/-!
What a cache shows is decided by the calls made on it. Several caches are in use at
the same time, and the calls on them come in any order.

* `Call`, `run`: calls on named caches, answered one after the other;
* `sinceClear`, `blocks`: the queries asked since the last clearing, and all queries
  in the blocks between clearings;
* `remembers_answer`, `remembers_run`: what the calls say of a cache after one call
  and after all of them;
* `history_decides`: **every answer is that of a fresh parse, and hits, misses and
  entries are counts of the calls on the cache.**
-/

namespace TagQuery.Cache

inductive Call where
  | parse (query : String)
  | clear
  deriving DecidableEq, Repr

def Call.query? : Call → Option String
  | parse query => some query
  | clear => none

/-- The components asked for by a call, if it asks for any, and the cache after it. -/
def answer (cache : Cache) : Call → Option (List Component) × Cache
  | .parse query => (some (cache.parse query).1, (cache.parse query).2)
  | .clear => (none, cache.clear)

/-! ## What calls say of a cache -/

def queries (calls : List Call) : List String := calls.filterMap Call.query?

/-- The queries asked since the last clearing. -/
def sinceClear (calls : List Call) : List String := queries (calls.rtakeWhile (· ≠ .clear))

/-- The queries asked up to the first clearing, between it and the next, and so on; the
last block is still open. -/
def blocks (calls : List Call) : List (List String) := (calls.splitOn .clear).map queries

/-- The number of different queries. -/
def distinct (asked : List String) : Nat := asked.toFinset.card

theorem distinct_append_of_mem {asked : List String} {query : String} (h : query ∈ asked) :
    distinct (asked ++ [query]) = distinct asked := by
  simp [distinct, h]

theorem distinct_append_of_not_mem {asked : List String} {query : String}
    (h : query ∉ asked) : distinct (asked ++ [query]) = distinct asked + 1 := by
  simp [distinct, h]

@[simp] theorem queries_parse (past : List Call) (query : String) :
    queries (past ++ [.parse query]) = queries past ++ [query] :=
  List.filterMap_append

@[simp] theorem queries_clear (past : List Call) : queries (past ++ [.clear]) = queries past := by
  simp [queries, Call.query?]

@[simp] theorem sinceClear_parse (past : List Call) (query : String) :
    sinceClear (past ++ [.parse query]) = sinceClear past ++ [query] := by
  rw [sinceClear, List.rtakeWhile_concat_pos _ _ _ (by simp), queries_parse]
  rfl

@[simp] theorem sinceClear_clear (past : List Call) : sinceClear (past ++ [.clear]) = [] := by
  rw [sinceClear, List.rtakeWhile_concat_neg _ _ _ (by simp)]
  rfl

@[simp] theorem blocks_clear (past : List Call) :
    blocks (past ++ [.clear]) = blocks past ++ [[]] := by
  rw [blocks, List.splitOn_eq_splitOnP, Reading.splitOnP_append_of_pos (by simp), List.map_append]
  rfl

/-- The last part is the one since the last clearing. -/
private theorem splitOn_clear (past : List Call) :
    ∃ closed, past.splitOn .clear = closed ++ [past.rtakeWhile (· ≠ .clear)] := by
  induction past using List.reverseRecOn with
  | nil => exact ⟨[], rfl⟩
  | append_singleton past call ih =>
    obtain ⟨closed, h⟩ := ih
    rw [List.splitOn_eq_splitOnP] at h ⊢
    by_cases hc : call = .clear
    · refine ⟨closed ++ [past.rtakeWhile (· ≠ .clear)], ?_⟩
      rw [Reading.splitOnP_append_of_pos (by simp [hc]), h,
        List.rtakeWhile_concat_neg _ _ _ (by simp [hc])]
    · refine ⟨closed, ?_⟩
      rw [Reading.splitOnP_append_of_neg (by simpa using hc) h,
        List.rtakeWhile_concat_pos _ _ _ (by simpa using hc)]

/-- A query goes into the last block. -/
theorem blocks_parse (past : List Call) : ∃ closed, blocks past = closed ++ [sinceClear past] ∧
    ∀ query, blocks (past ++ [.parse query]) = closed ++ [sinceClear past ++ [query]] := by
  obtain ⟨closed, h⟩ := splitOn_clear past
  refine ⟨closed.map queries, ?_, fun query => ?_⟩
  · rw [blocks, h, List.map_append]
    rfl
  · rw [List.splitOn_eq_splitOnP] at h
    rw [blocks, List.splitOn_eq_splitOnP, Reading.splitOnP_append_of_neg (by simp) h,
      List.map_append, List.map_singleton, queries_parse]
    rfl

theorem sinceClear_of_not_mem {calls : List Call} (h : .clear ∉ calls) :
    sinceClear calls = queries calls := by
  rw [sinceClear, List.rtakeWhile_eq_self_iff.mpr]
  intro call hcall
  rw [decide_eq_true_eq]
  rintro rfl
  exact h hcall

theorem blocks_of_not_mem {calls : List Call} (h : .clear ∉ calls) :
    blocks calls = [queries calls] := by
  rw [blocks, List.splitOn_eq_splitOnP, List.splitOnP_eq_singleton]
  · rfl
  · intro call hcall
    rw [beq_eq_false_iff_ne]
    rintro rfl
    exact h hcall

/-! ## One call -/

theorem parse_found {cache : Cache} {query : String} {cs : List Component}
    (h : cache.find? query = some cs) :
    cache.parse query = (cs, { cache with hits := cache.hits + 1 }) := by
  rw [parse, h]

theorem parse_entered {cache : Cache} {query : String} (h : cache.find? query = none) :
    cache.parse query = (TagQuery.parse query,
      { cache with
        entries := (query, TagQuery.parse query) :: cache.entries
        misses := cache.misses + 1 }) := by
  rw [parse, h, enter, h]

/-- The cache shows what the calls of `past` say of it. -/
structure Remembers (cache : Cache) (past : List Call) : Prop where
  find? : ∀ query, cache.find? query
    = if query ∈ sinceClear past then some (TagQuery.parse query) else none
  size : cache.size = distinct (sinceClear past)
  misses : cache.misses = ((blocks past).map distinct).sum
  asked : cache.hits + cache.misses = (queries past).length

theorem remembers_empty : Remembers {} [] where
  find? _ := rfl
  size := rfl
  misses := rfl
  asked := rfl

/-- Whatever was asked before, the answer is that of a fresh parse. It is a hit if
the query was asked since the last clearing. -/
theorem Remembers.parse {cache : Cache} {past : List Call} (h : Remembers cache past)
    (query : String) : cache.parse query = (TagQuery.parse query,
      if query ∈ sinceClear past then { cache with hits := cache.hits + 1 }
      else { cache with
        entries := (query, TagQuery.parse query) :: cache.entries
        misses := cache.misses + 1 }) := by
  have hfind := h.find? query
  by_cases hq : query ∈ sinceClear past
  · rw [if_pos hq] at hfind
    rw [if_pos hq, parse_found hfind]
  · rw [if_neg hq] at hfind
    rw [if_neg hq, parse_entered hfind]

private theorem remembers_hit {cache : Cache} {past : List Call} (h : Remembers cache past)
    {query : String} (hq : query ∈ sinceClear past) :
    Remembers { cache with hits := cache.hits + 1 } (past ++ [.parse query]) := by
  obtain ⟨closed, hblocks, hnext⟩ := blocks_parse past
  refine ⟨fun other => ?_, ?_, ?_, ?_⟩
  · have hother : other ∈ sinceClear (past ++ [.parse query]) ↔ other ∈ sinceClear past := by
      rw [sinceClear_parse, List.mem_append, List.mem_singleton]
      constructor
      · rintro (ho | rfl)
        · exact ho
        · exact hq
      · exact Or.inl
    simp only [hother]
    exact h.find? other
  · rw [sinceClear_parse, distinct_append_of_mem hq]
    exact h.size
  · have hmisses := h.misses
    rw [hblocks] at hmisses
    rw [hnext]
    simpa only [List.map_append, List.map_singleton, distinct_append_of_mem hq] using hmisses
  · have hasked := h.asked
    simp only [queries_parse, List.length_append, List.length_singleton]
    omega

private theorem remembers_miss {cache : Cache} {past : List Call} (h : Remembers cache past)
    {query : String} (hq : query ∉ sinceClear past) :
    Remembers { cache with
      entries := (query, TagQuery.parse query) :: cache.entries
      misses := cache.misses + 1 } (past ++ [.parse query]) := by
  obtain ⟨closed, hblocks, hnext⟩ := blocks_parse past
  refine ⟨fun other => ?_, ?_, ?_, ?_⟩
  · have hfind := h.find? other
    rw [Cache.find?] at hfind ⊢
    simp only [sinceClear_parse, List.mem_append, List.mem_singleton, List.lookup_cons]
    by_cases ho : other = query
    · simp [ho]
    · simp [ho, beq_false_of_ne ho, hfind]
  · rw [sinceClear_parse, distinct_append_of_not_mem hq, ← h.size]
    rfl
  · have hmisses := h.misses
    rw [hblocks] at hmisses
    rw [hnext]
    simp only [List.map_append, List.map_singleton, List.sum_append, List.sum_singleton,
      distinct_append_of_not_mem hq] at hmisses ⊢
    omega
  · have hasked := h.asked
    simp only [queries_parse, List.length_append, List.length_singleton]
    omega

private theorem remembers_clear {cache : Cache} {past : List Call} (h : Remembers cache past) :
    Remembers cache.clear (past ++ [.clear]) := by
  refine ⟨fun query => ?_, ?_, ?_, ?_⟩
  · rw [sinceClear_clear]
    rfl
  · rw [sinceClear_clear]
    rfl
  · rw [blocks_clear, List.map_append, List.sum_append]
    exact h.misses
  · rw [queries_clear]
    exact h.asked

/-- **Step lemma.** -/
theorem remembers_answer {cache : Cache} {past : List Call} (h : Remembers cache past)
    (call : Call) : Remembers (cache.answer call).2 (past ++ [call]) := by
  cases call with
  | clear => exact remembers_clear h
  | parse query =>
    rw [answer, h.parse]
    by_cases hq : query ∈ sinceClear past
    · rw [if_pos hq]
      exact remembers_hit h hq
    · rw [if_neg hq]
      exact remembers_miss h hq

theorem answer_eq {cache : Cache} {past : List Call} (h : Remembers cache past) (call : Call) :
    (cache.answer call).1 = call.query?.map TagQuery.parse := by
  cases call with
  | clear => rfl
  | parse query =>
    rw [answer, h.parse]
    rfl

/-! ## Many calls on several caches -/

section Run

variable {ι : Type} [DecidableEq ι]

/-- Answers calls, each on the cache that it names. -/
def run (caches : ι → Cache) :
    List (ι × Call) → List (Option (List Component)) × (ι → Cache)
  | [] => ([], caches)
  | (i, call) :: calls =>
    let (first, next) := (caches i).answer call
    let (rest, last) := run (Function.update caches i next) calls
    (first :: rest, last)

/-- The answers to calls on new caches. -/
def answers (calls : List (ι × Call)) : List (Option (List Component)) :=
  (run (fun _ => {}) calls).1

/-- The cache `i`, new at first, after the calls. -/
def after (calls : List (ι × Call)) (i : ι) : Cache := (run (fun _ => {}) calls).2 i

def callsOn (i : ι) (calls : List (ι × Call)) : List Call :=
  calls.filterMap fun c => if c.1 = i then some c.2 else none

/-- **Run lemma.** Each cache goes by the calls on it. -/
theorem remembers_run {caches : ι → Cache} {past : ι → List Call}
    (h : ∀ i, Remembers (caches i) (past i)) (calls : List (ι × Call)) :
    (run caches calls).1 = calls.map (fun c => c.2.query?.map TagQuery.parse) ∧
      ∀ i, Remembers ((run caches calls).2 i) (past i ++ callsOn i calls) := by
  induction calls generalizing caches past with
  | nil => exact ⟨rfl, fun i => by simpa [run, callsOn] using h i⟩
  | cons call calls ih =>
    obtain ⟨j, call⟩ := call
    have hnext : ∀ i, Remembers (Function.update caches j ((caches j).answer call).2 i)
        (Function.update past j (past j ++ [call]) i) := by
      intro i
      by_cases hi : i = j
      · subst hi
        rw [Function.update_self, Function.update_self]
        exact remembers_answer (h i) call
      · rw [Function.update_of_ne hi, Function.update_of_ne hi]
        exact h i
    obtain ⟨hanswers, hcaches⟩ := ih hnext
    refine ⟨?_, fun i => ?_⟩
    · rw [List.map_cons, ← answer_eq (h j) call, ← hanswers]
      rfl
    · have hlast := hcaches i
      by_cases hi : i = j
      · subst hi
        rw [Function.update_self] at hlast
        simpa [run, callsOn] using hlast
      · rw [Function.update_of_ne hi] at hlast
        simpa [run, callsOn, Ne.symm hi] using hlast

theorem answers_eq (calls : List (ι × Call)) :
    answers calls = calls.map fun c => c.2.query?.map TagQuery.parse :=
  (remembers_run (fun _ : ι => remembers_empty) calls).1

theorem remembers_after (calls : List (ι × Call)) (i : ι) :
    Remembers (after calls i) (callsOn i calls) :=
  (remembers_run (fun _ : ι => remembers_empty) calls).2 i

private theorem run_append (caches : ι → Cache) (xs ys : List (ι × Call)) :
    (run caches (xs ++ ys)).2 = (run (run caches xs).2 ys).2 := by
  induction xs generalizing caches with
  | nil => rfl
  | cons call xs ih => exact ih _

theorem after_parse (calls : List (ι × Call)) (i : ι) (query : String) :
    after (calls ++ [(i, .parse query)]) i = ((after calls i).parse query).2 := by
  rw [after, run_append]
  exact Function.update_self ..

/-- Without a clearing a cache shows how many queries were asked and how many of them
were different. -/
theorem stats_of_not_mem {calls : List (ι × Call)} {i : ι} (h : .clear ∉ callsOn i calls)
    {asked : List String} (hasked : queries (callsOn i calls) = asked) :
    (after calls i).stats = ⟨asked.length - distinct asked, distinct asked, distinct asked⟩ := by
  obtain ⟨_, hsize, hmisses, hsum⟩ := remembers_after calls i
  rw [blocks_of_not_mem h, List.map_singleton, List.sum_singleton, hasked] at hmisses
  rw [sinceClear_of_not_mem h, hasked] at hsize
  rw [hasked, hmisses] at hsum
  rw [stats, hsize, hmisses, ← hsum, Nat.add_sub_cancel]

/-- **The history decides what a cache shows.** A query is a hit exactly if it was asked
since the last clearing, and for calls without a clearing their order does not matter. No
count exceeds the number of calls, so counters of 64 bits tell the same of fewer than 2^64
calls. -/
theorem history_decides (calls : List (ι × Call)) (i : ι) :
    answers calls = calls.map (fun c => c.2.query?.map TagQuery.parse) ∧
    (∀ query,
      (after (calls ++ [(i, .parse query)]) i).stats.hits = (after calls i).stats.hits
        + (if query ∈ sinceClear (callsOn i calls) then 1 else 0) ∧
      (after (calls ++ [(i, .parse query)]) i).stats.misses = (after calls i).stats.misses
        + (if query ∈ sinceClear (callsOn i calls) then 0 else 1)) ∧
    (after calls i).stats.entries = distinct (sinceClear (callsOn i calls)) ∧
    (after calls i).stats.misses = ((blocks (callsOn i calls)).map distinct).sum ∧
    (after calls i).stats.hits + (after calls i).stats.misses
      = (queries (callsOn i calls)).length ∧
    ∀ calls', calls.Perm calls' → .clear ∉ callsOn i calls →
      (calls.zip (answers calls)).Perm (calls'.zip (answers calls')) ∧
      (after calls i).stats = (after calls' i).stats := by
  have hafter := remembers_after calls i
  refine ⟨answers_eq calls, fun query => ?_, hafter.size, hafter.misses, hafter.asked,
    fun calls' hperm hclear => ⟨?_, ?_⟩⟩
  · rw [after_parse, hafter.parse]
    by_cases hq : query ∈ sinceClear (callsOn i calls)
    · simp [stats, hq]
    · simp [stats, hq]
  · rw [answers_eq, answers_eq, ← List.map_prod_left_eq_zip, ← List.map_prod_left_eq_zip]
    exact hperm.map _
  · have hown : (callsOn i calls).Perm (callsOn i calls') := hperm.filterMap _
    have hasked : (queries (callsOn i calls)).Perm (queries (callsOn i calls')) :=
      hown.filterMap _
    have hclear' : .clear ∉ callsOn i calls' := fun h => hclear (hown.mem_iff.mpr h)
    rw [stats_of_not_mem hclear rfl, stats_of_not_mem hclear' rfl, hasked.length_eq, distinct,
      distinct, List.toFinset_eq_of_perm _ _ hasked]

/-- Two spellings of a query are two entries, and clearing another cache changes nothing. -/
theorem batch_in_two_orders :
    [(0, Call.parse "Foo"), (1, .clear), (0, .parse "foo"), (0, .parse "Foo")].Perm
      [(0, .parse "foo"), (0, .parse "Foo"), (0, .parse "Foo"), (1, .clear)] ∧
    .clear ∉ callsOn 0
      [(0, Call.parse "Foo"), (1, .clear), (0, .parse "foo"), (0, .parse "Foo")] ∧
    (after [(0, .parse "foo"), (0, .parse "Foo"), (0, .parse "Foo"), (1, .clear)] 0).stats
      = ⟨1, 2, 2⟩ := by
  have hperm : [(0, Call.parse "Foo"), (1, .clear), (0, .parse "foo"), (0, .parse "Foo")].Perm
      [(0, .parse "foo"), (0, .parse "Foo"), (0, .parse "Foo"), (1, .clear)] := by
    decide
  have hclear : .clear ∉ callsOn 0
      [(0, Call.parse "Foo"), (1, .clear), (0, .parse "foo"), (0, .parse "Foo")] := by
    decide
  refine ⟨hperm, hclear, ?_⟩
  have hstats := ((history_decides _ 0).2.2.2.2.2 _ hperm hclear).2
  rw [← hstats]
  decide +kernel

end Run

end TagQuery.Cache
