import TagQuery.Run

/-!
What a run comes to, by what its arguments and its request come to.

* `run_of_halt`, `run_of_request`: the arguments end the run, or call for a request;
* `outcome_of_ok`, `outcome_of_error`: a request has an answer or a failure;
* `outcome_congr`: where nothing is logged, answers and plain lines decide the outcome.
-/

namespace TagQuery

theorem run_of_halt {s : Surroundings} {halt : Halt}
    (h : readArguments (s.valueOf? "TAGSEARCH_CONFIG") s.args = .error halt) :
    run s = halt.outcome s ((s.valueOf? "TAGSEARCH_CONFIG").getD "") := by
  simp only [run, h]

theorem run_of_request {s : Surroundings} {named? : Option String} {request : Request}
    (h : readArguments (s.valueOf? "TAGSEARCH_CONFIG") s.args = .ok ⟨named?, some request⟩) :
    run s = (runRequest named? request s).outcome s.logFilter := by
  simp only [run, h]

theorem outcome_of_ok {r : Result} {code : ExitCode} {out : String}
    (h : r.answer = .ok (code, out)) (filter : Log.Filter) :
    (r.outcome filter).code = code ∧ (r.outcome filter).out = out := by
  simp [Result.outcome, h]

/-- A failure prints nothing but its message. -/
theorem outcome_of_error {r : Result} {e : Failure} (h : r.answer = .error e)
    (filter : Log.Filter) :
    (r.outcome filter).code = e.exitCode ∧ (r.outcome filter).out = "" := by
  simp [Result.outcome, h]

theorem linesText_eq (texts : List String) :
    linesText texts = String.join (texts.map (· ++ "\n")) := by
  rw [← String.toList_inj]
  simp [linesText, lineOf, String.toList_join, List.flatMap_map]

/-! ## Without a log -/

/-- No event passes. -/
def Log.Filter.IsOff (filter : Log.Filter) : Prop := ∀ e, filter.passes e = false

theorem isOff_of_unset {s : Surroundings} (h : s.valueOf? "TAGSEARCH_LOG" = none) :
    s.logFilter.IsOff := by
  intro e
  simp [Surroundings.logFilter, h, Log.Filter.passes, Log.Filter.deciding?]

theorem text?_debug {filter : Log.Filter} (h : filter.IsOff) (source message : String) :
    Notice.text? filter (.debug source message) = none := by
  simp [Notice.text?, Notice.debug, h _]

theorem outcome_congr {filter : Log.Filter} {r₁ r₂ : Result} (hanswer : r₁.answer = r₂.answer)
    (hnotices : r₁.notices.filterMap (Notice.text? filter)
      = r₂.notices.filterMap (Notice.text? filter)) :
    r₁.outcome filter = r₂.outcome filter := by
  simp only [Result.outcome, hanswer, hnotices]

end TagQuery
