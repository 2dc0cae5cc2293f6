import TagQuery.Proofs.RaisedFlags

/-!
The two options of a match, case and wildcards. Each has a flag that puts it on and one that
puts it off, of which at most one is in force.

* `shows_foldl`: of two opposites the one that was raised last is in force;
* `options_of_flagsGiven`: **each option is what the last flag about it says, or else the
  default.**
-/

namespace TagQuery

/-- What a flag says about the option that `on` puts on and `off` puts off. -/
def polarity? (on off f : Flag) : Option Bool :=
  if f = on then some true else if f = off then some false else none

/-- What the last flag about the option says. -/
def lastPolarity? (on off : Flag) (fs : List Flag) : Option Bool :=
  (fs.filterMap (polarity? on off)).getLast?

theorem lastPolarity?_cons (on off f : Flag) (fs : List Flag) :
    lastPolarity? on off (f :: fs) = (lastPolarity? on off fs).or (polarity? on off f) := by
  unfold lastPolarity?
  cases hpolarity : polarity? on off f with
  | none => simp [hpolarity]
  | some b => rw [List.filterMap_cons_some hpolarity, List.getLast?_cons, Option.or_some]

theorem opposite?_symm {f f' : Flag} (h : f.opposite? = some f') : f'.opposite? = some f := by
  cases f <;> cases h <;> rfl

theorem mem_withRaised (inForce : List Flag) (f other : Flag) :
    other ∈ withRaised inForce f ↔ other = f ∨ (other ∈ inForce ∧ f.opposite? ≠ some other) := by
  simp [withRaised]

/-- Of two opposites the one in force, if there is one, shows what was said. -/
structure Shows (on off : Flag) (inForce : List Flag) (said? : Option Bool) : Prop where
  on_iff : on ∈ inForce ↔ said? = some true
  off_iff : off ∈ inForce ↔ said? = some false

section Pair

variable {on off : Flag} {inForce : List Flag} {said? : Option Bool}

theorem shows_withRaised (hpair : on.opposite? = some off) (h : Shows on off inForce said?)
    (f : Flag) : Shows on off (withRaised inForce f) ((polarity? on off f).or said?) := by
  have hback := opposite?_symm hpair
  have hne : on ≠ off := by
    rintro rfl
    cases on <;> cases hpair
  by_cases hon : f = on
  · subst hon
    constructor <;> simp [mem_withRaised, polarity?, hpair, hne.symm]
  by_cases hoff : f = off
  · subst hoff
    constructor <;> simp [mem_withRaised, polarity?, hback, hne, hon]
  · -- A flag about something else takes neither of the two back.
    have hkeeps : f.opposite? ≠ some on ∧ f.opposite? ≠ some off := by
      constructor
      · intro hf
        exact hoff (Option.some.inj ((opposite?_symm hf).symm.trans hpair))
      · intro hf
        exact hon (Option.some.inj ((opposite?_symm hf).symm.trans hback))
    constructor
    · simp [mem_withRaised, polarity?, hon, hoff, Ne.symm hon, hkeeps.1, h.on_iff]
    · simp [mem_withRaised, polarity?, hon, hoff, Ne.symm hoff, hkeeps.2, h.off_iff]

theorem shows_foldl (hpair : on.opposite? = some off) (h : Shows on off inForce said?)
    (fs : List Flag) :
    Shows on off (fs.foldl withRaised inForce) ((lastPolarity? on off fs).or said?) := by
  induction fs generalizing inForce said? with
  | nil => exact h
  | cons f fs ih =>
    rw [List.foldl_cons, lastPolarity?_cons, Option.or_assoc]
    exact ih (shows_withRaised hpair h f)

theorem Shows.not_both (h : Shows on off inForce said?) :
    ¬(inForce.contains on = true ∧ inForce.contains off = true) := by
  rw [List.contains_iff_mem, List.contains_iff_mem, h.on_iff, h.off_iff]
  rintro ⟨hon, hoff⟩
  rw [hon] at hoff
  cases hoff

theorem Shows.pairOr_eq (h : Shows on off inForce said?) (default : Bool) :
    pairOr (inForce.contains on) (inForce.contains off) default = said?.getD default := by
  have hon : inForce.contains on = decide (said? = some true) := by
    rw [Bool.eq_iff_iff, List.contains_iff_mem, decide_eq_true_iff]
    exact h.on_iff
  have hoff : inForce.contains off = decide (said? = some false) := by
    rw [Bool.eq_iff_iff, List.contains_iff_mem, decide_eq_true_iff]
    exact h.off_iff
  rw [hon, hoff]
  cases said? with
  | none => rfl
  | some b => cases b <;> rfl

end Pair

/-! ## The options -/

/-- A match takes its fields from the flags in force. -/
theorem Given.flags_of_request {inner : Given} {level : Level} {a : MatchArguments}
    (h : inner.request level = .ok (some (.find a))) :
    a.ignoreCase = inner.flags.contains .ignoreCase ∧
      a.caseSensitive = inner.flags.contains .caseSensitive ∧
      a.wildcard = inner.flags.contains .wildcard ∧
      a.noWildcard = inner.flags.contains .noWildcard := by
  cases level with
  | program => cases h
  | parse => cases h
  | escape =>
    rw [request] at h
    split at h
    · cases h
    · cases h
  | find =>
    rw [request] at h
    split at h
    · cases h
    · cases h
      exact ⟨rfl, rfl, rfl, rfl⟩

/-- **The last flag of a pair decides.** For all arguments that call for a match and are
accepted, no two opposites are set, and each of the two options is what the last flag about
it says, or the default where there is none. -/
theorem options_of_flagsGiven {fallback? named? : Option String} {args : List String}
    {a : MatchArguments} (h : readArguments fallback? args = .ok ⟨named?, some (.find a)⟩)
    (defaults : MatchOptions) :
    ¬(a.ignoreCase = true ∧ a.caseSensitive = true) ∧
      ¬(a.wildcard = true ∧ a.noWildcard = true) ∧
      (a.options defaults).ignoreCase
        = (lastPolarity? .ignoreCase .caseSensitive (flagsGiven args)).getD defaults.ignoreCase ∧
      (a.options defaults).wildcards
        = (lastPolarity? .wildcard .noWildcard (flagsGiven args)).getD defaults.wildcards := by
  obtain ⟨outer, level, rest, inner, hprogram, hcommand, hrequest⟩ := exists_of_readArguments h
  obtain ⟨hignore, hcase, hwild, hnone⟩ := Given.flags_of_request hrequest
  have hgiven : flagsGiven args = flagsGiven rest := flagsFrom_readProgram hprogram
  have hflags : inner.flags = (flagsGiven args).foldl withRaised [] := by
    rw [hgiven]
    exact Given.flags_readCommand hcommand
  -- At the start nothing is in force, and nothing has been said.
  have hstart (on off : Flag) : Shows on off [] none := ⟨by simp, by simp⟩
  have hcases := shows_foldl (show Flag.ignoreCase.opposite? = some .caseSensitive from rfl)
    (hstart _ _) (flagsGiven args)
  have hwilds := shows_foldl (show Flag.wildcard.opposite? = some .noWildcard from rfl)
    (hstart _ _) (flagsGiven args)
  rw [← hflags, Option.or_none] at hcases hwilds
  rw [hignore, hcase, hwild, hnone, MatchArguments.options, hignore, hcase, hwild, hnone]
  exact ⟨hcases.not_both, hwilds.not_both, hcases.pairOr_eq _, hwilds.pairOr_eq _⟩

/-- The `i` after the second `C` is the name of a file, and the last two are values. -/
def mixedArguments : List String :=
  ["-C", "match", "match", "-isCi", "a", "--no-wildcard", "-o", "json", "-i", "--", "-s",
    "--wildcard"]

theorem last_flags_decide :
    ∃ a, readArguments none mixedArguments = .ok ⟨some "i", some (.find a)⟩ ∧
      flagsGiven mixedArguments = [.ignoreCase, .caseSensitive, .noWildcard, .ignoreCase] ∧
      a.haystacks = ["-s", "--wildcard"] ∧
      (a.options ⟨false, true⟩).ignoreCase = true ∧
      (a.options ⟨false, true⟩).wildcards = false := by
  have haccepted : readArguments none mixedArguments = .ok ⟨some "i",
      some (.find ⟨"a", ["-s", "--wildcard"], true, false, false, true, .json⟩)⟩ := by
    decide +kernel
  have hgiven : flagsGiven mixedArguments
      = [.ignoreCase, .caseSensitive, .noWildcard, .ignoreCase] := by
    decide
  obtain ⟨-, -, hignore, hwilds⟩ := options_of_flagsGiven haccepted ⟨false, true⟩
  rw [hgiven] at hignore hwilds
  exact ⟨_, haccepted, hgiven, rfl, hignore, hwilds⟩

end TagQuery
