import Mathlib.Data.List.TakeWhile
import TagQuery.Proofs.ReadingArguments

/-!
The flags of a match, from the arguments to the flags in force. A flag that is raised takes
its opposite back.

* `flagsGiven`: the flags that arguments give, told from the arguments alone;
* `Given.raises_readOne`: an argument is a value that was waited for, or raises the flags
  in it;
* `Given.flags_readCommand`: **the flags in force at the end are those that the arguments
  give, raised one after the other**;
* `flagsFrom_readProgram`: before the command there are none.
-/

namespace TagQuery

/-! ## The flags that arguments give -/

/-- The flag of a match that a letter after a dash stands for. -/
def shortFlag? : Char → Option Flag
  | 'i' => some .ignoreCase
  | 's' => some .caseSensitive
  | _ => none

/-- The flag of a match that a name after two dashes stands for. -/
def longFlag? : String → Option Flag
  | "ignore-case" => some .ignoreCase
  | "case-sensitive" => some .caseSensitive
  | "wildcard" => some .wildcard
  | "no-wildcard" => some .noWildcard
  | _ => none

/-- The letters of options that take a value. -/
def takesValue (c : Char) : Bool := c = 'C' || c = 'o'

def nameTakesValue (name : String) : Bool := name = "config" || name = "output"

/-- The flags among letters after a dash. What follows a letter that takes a value is the
value. -/
def lettersFlags (cs : List Char) : List Flag :=
  (cs.takeWhile fun c => !takesValue c).filterMap shortFlag?

/-- Is a letter that takes a value the last one, so that the value is to come? -/
def lettersWait (cs : List Char) : Bool := (cs.dropWhile fun c => !takesValue c).length = 1

def flagsIn (arg : String) : List Flag :=
  match arg.toList with
  | '-' :: '-' :: name => (longFlag? (String.ofList name)).toList
  | '-' :: cs => lettersFlags cs
  | _ => []

/-- Is the next argument the value of an option in this one? -/
def awaitsValue (arg : String) : Bool :=
  match arg.toList with
  | '-' :: '-' :: name => nameTakesValue (String.ofList name)
  | '-' :: cs => lettersWait cs
  | _ => false

/-- The flags that arguments give, where `true` says that the first argument is the value of an
option before it. A value gives no flag, whatever it looks like, nor does anything after two
dashes alone. -/
def flagsFrom : Bool → List String → List Flag
  | _, [] => []
  | true, _ :: rest => flagsFrom false rest
  | false, arg :: rest => if arg = "--" then [] else flagsIn arg ++ flagsFrom (awaitsValue arg) rest

def flagsGiven (args : List String) : List Flag := flagsFrom false args

/-! ## Letters and names -/

theorem ofShort?_flag {level : Level} {c : Char} {f : Flag}
    (h : level.ofShort? c = some (.flag f)) :
    takesValue c = false ∧
      ((level = .find ∧ shortFlag? c = some f) ∨ f = .help ∨ f = .version) := by
  unfold Level.ofShort? at h
  split at h <;> cases h <;> simp [takesValue, shortFlag?]

theorem ofShort?_setting {level : Level} {c : Char} {s : Setting}
    (h : level.ofShort? c = some (.setting s)) : takesValue c = true := by
  unfold Level.ofShort? at h
  split at h <;> cases h <;> rfl

theorem ofLong?_flag {level : Level} {name : String} {f : Flag}
    (h : level.ofLong? name = some (.flag f)) :
    nameTakesValue name = false ∧
      ((level = .find ∧ longFlag? name = some f) ∨ f = .help ∨ f = .version) := by
  unfold Level.ofLong? at h
  split at h <;> cases h <;> simp [nameTakesValue, longFlag?]

theorem ofLong?_setting {level : Level} {name : String} {s : Setting}
    (h : level.ofLong? name = some (.setting s)) :
    nameTakesValue name = true ∧ longFlag? name = none := by
  unfold Level.ofLong? at h
  split at h <;> cases h <;> simp [nameTakesValue, longFlag?]

section Letters

variable {c : Char} (cs : List Char)

theorem lettersFlags_flag {f : Flag} (hc : takesValue c = false) (hf : shortFlag? c = some f) :
    lettersFlags (c :: cs) = f :: lettersFlags cs := by
  simp [lettersFlags, hc, hf]

theorem lettersFlags_setting (hc : takesValue c = true) : lettersFlags (c :: cs) = [] := by
  simp [lettersFlags, hc]

theorem lettersWait_flag (hc : takesValue c = false) :
    lettersWait (c :: cs) = lettersWait cs := by
  simp [lettersWait, hc]

theorem lettersWait_setting (hc : takesValue c = true) :
    lettersWait (c :: cs) = cs.isEmpty := by
  cases cs <;> simp [lettersWait, hc]

end Letters

theorem equals_notMem_of_longFlag? {name : String} {f : Flag} (h : longFlag? name = some f) :
    '=' ∉ name.toList := by
  unfold longFlag? at h
  split at h
  · decide
  · decide
  · decide
  · decide
  · cases h

theorem equals_notMem_of_nameTakesValue {name : String} (h : nameTakesValue name = true) :
    '=' ∉ name.toList := by
  simp only [nameTakesValue, Bool.or_eq_true, decide_eq_true_eq] at h
  rcases h with rfl | rfl
  · decide
  · decide

/-- With a value attached to it, a name is none of these. -/
theorem longFlag?_of_equals {cs : List Char} (h : '=' ∈ cs) :
    longFlag? (String.ofList cs) = none ∧ nameTakesValue (String.ofList cs) = false := by
  constructor
  · rw [Option.eq_none_iff_forall_ne_some]
    intro f hf
    exact equals_notMem_of_longFlag? hf (by simpa using h)
  · rw [Bool.eq_false_iff]
    intro hname
    exact equals_notMem_of_nameTakesValue hname (by simpa using h)

theorem flagsIn_letters {arg : String} {c : Char} {cs : List Char}
    (h : arg.toList = '-' :: c :: cs) (hc : c ≠ '-') :
    flagsIn arg = lettersFlags (c :: cs) ∧ awaitsValue arg = lettersWait (c :: cs) := by
  simp [flagsIn, awaitsValue, h, hc]

/-- A dash alone is a value. -/
theorem flagsIn_value {arg : String} (h : ∀ c cs, arg.toList ≠ '-' :: c :: cs) :
    flagsIn arg = [] ∧ awaitsValue arg = false := by
  unfold flagsIn awaitsValue
  split
  next name harg => exact absurd harg (h _ _)
  next cs _ harg =>
    cases cs with
    | nil => exact ⟨rfl, rfl⟩
    | cons c cs => exact absurd harg (h _ _)
  · exact ⟨rfl, rfl⟩

theorem flagsIn_command {arg : String} {level : Level} (h : Level.ofName? arg = some level) :
    flagsIn arg = [] ∧ awaitsValue arg = false := by
  apply flagsIn_value
  unfold Level.ofName? at h
  split at h
  · simp
  · simp
  · simp
  · cases h

/-! ## One argument -/

/-- The flags in force when one more is raised. -/
def withRaised (inForce : List Flag) (f : Flag) : List Flag :=
  f :: inForce.filter fun other => f.opposite? ≠ some other

namespace Given

/-- From `g`, which waits for no value, to `g'` by flags that are raised one after the other.
Only a match has flags to be raised. -/
structure Raises (level : Level) (fs : List Flag) (waits : Bool) (g g' : Given) : Prop where
  ready : g.isWaiting = false
  inForce : g'.flags = fs.foldl withRaised g.flags
  waiting : g'.isWaiting = waits
  own : level = .find ∨ fs = []

theorem Raises.trans {level : Level} {fs fs' : List Flag} {waits : Bool} {g g' g'' : Given}
    (h : Raises level fs false g g') (h' : Raises level fs' waits g' g'') :
    Raises level (fs ++ fs') waits g g'' where
  ready := h.ready
  inForce := by rw [h'.inForce, h.inForce, List.foldl_append]
  waiting := h'.waiting
  own := by
    rcases h.own with hlevel | rfl
    · exact .inl hlevel
    · exact h'.own

theorem assign_keeps {g g' : Given} {s : Setting} {value? : Option String}
    (h : g.assign s value? = .ok g') :
    value?.isSome ∧ g'.flags = g.flags ∧ g'.pending? = g.pending? := by
  cases value? with
  | none => simp [assign, fail] at h
  | some value =>
    cases s with
    | config =>
      simp only [assign, fail] at h
      split at h
      · cases h
      split at h
      · cases h
      · cases h
        exact ⟨rfl, rfl, rfl⟩
    | output =>
      simp only [assign, fail] at h
      split at h
      · cases h
      split at h
      · cases h
      split at h
      · cases h
        exact ⟨rfl, rfl, rfl⟩
      · cases h

section Steps

variable {g g' : Given} {level : Level}

theorem raises_settle (level : Level) (h : g.settle = .ok g') : Raises level [] false g g' := by
  unfold settle at h
  split at h
  next hpending =>
    cases h
    exact ⟨by simp [isWaiting, hpending], rfl, by simp [isWaiting, hpending], .inr rfl⟩
  next s value? hpending =>
    obtain ⟨hvalue, hflags, hnone⟩ := assign_keeps h
    obtain ⟨value, rfl⟩ := Option.isSome_iff_exists.mp hvalue
    exact ⟨by simp [isWaiting, hpending], hflags, by simp [isWaiting, hnone], .inr rfl⟩

theorem raises_addValue {value : String} (h : g.addValue value = .ok g') :
    Raises level [] false g g' := by
  obtain ⟨g₀, hsettle, hg'⟩ := exists_of_bind_eq_ok h
  cases hg'
  have hsettled := raises_settle level hsettle
  exact ⟨hsettled.ready, hsettled.inForce, hsettled.waiting, .inr rfl⟩

theorem raises_setOption {s : Setting} {attached? : Option String}
    (h : g.setOption s attached? = .ok g') : Raises level [] attached?.isNone g g' := by
  obtain ⟨g₀, hsettle, hg'⟩ := exists_of_bind_eq_ok h
  have hsettled := raises_settle level hsettle
  cases attached? with
  | none =>
    cases hg'
    exact ⟨hsettled.ready, hsettled.inForce, rfl, .inr rfl⟩
  | some value =>
    obtain ⟨-, hflags, hpending⟩ := assign_keeps hg'
    have hwaiting : g'.isWaiting = g₀.isWaiting := by rw [isWaiting, isWaiting, hpending]
    exact ⟨hsettled.ready, hflags.trans hsettled.inForce, hwaiting.trans hsettled.waiting, .inr rfl⟩

/-- Help and the version end the reading, so they are never in force. -/
theorem not_notice_of_raise {f : Flag} (h : g.raise level f = .ok g') :
    ¬(f = .help ∨ f = .version) := by
  obtain ⟨g₀, -, hg'⟩ := exists_of_bind_eq_ok h
  rintro (rfl | rfl)
  · cases hg'
  · cases hg'

theorem raises_raise {f : Flag} (h : g.raise .find f = .ok g') : Raises .find [f] false g g' := by
  obtain ⟨g₀, hsettle, hg'⟩ := exists_of_bind_eq_ok h
  have hsettled := raises_settle .find hsettle
  have hkept : g₀.flags = g.flags := hsettled.inForce
  split at hg'
  · cases hg'
  · cases hg'
  split at hg'
  · cases hg'
  · cases hg'
    refine ⟨hsettled.ready, ?_, hsettled.waiting, .inl rfl⟩
    rw [List.foldl_cons, List.foldl_nil, withRaised, ← hkept]

/-- Without letters nothing changes. Any letter settles what is pending first. -/
theorem raises_readShorts {cs : List Char} (h : g.readShorts level cs = .ok g') :
    (cs = [] ∧ g' = g) ∨ Raises level (lettersFlags cs) (lettersWait cs) g g' := by
  induction cs generalizing g with
  | nil =>
    cases h
    exact .inl ⟨rfl, rfl⟩
  | cons c rest ih =>
    rw [readShorts] at h
    split at h
    · cases h
    next f hf =>
      obtain ⟨g₁, hraise, hrest⟩ := exists_of_bind_eq_ok h
      obtain ⟨hc, hown⟩ := ofShort?_flag hf
      obtain ⟨rfl, hflag⟩ := hown.resolve_right (not_notice_of_raise hraise)
      rw [lettersFlags_flag rest hc hflag, lettersWait_flag rest hc]
      have hfirst := raises_raise hraise
      rcases ih hrest with ⟨rfl, rfl⟩ | hmore
      · exact .inr hfirst
      · exact .inr (hfirst.trans hmore)
    next s hs =>
      have hc := ofShort?_setting hs
      rw [lettersFlags_setting rest hc, lettersWait_setting rest hc]
      split at h
      · exact .inr (raises_setOption h)
      · exact .inr (raises_setOption h)
      next hrest _ =>
        rw [List.isEmpty_eq_false_iff.mpr hrest]
        exact .inr (raises_setOption h)

theorem raises_readLong {cs : List Char} (h : g.readLong level cs = .ok g') :
    Raises level (longFlag? (String.ofList cs)).toList (nameTakesValue (String.ofList cs)) g g' := by
  unfold readLong at h
  by_cases hequals : '=' ∈ cs
  · -- A value is attached, so this is no flag, and the option does not wait.
    obtain ⟨hflag, hname⟩ := longFlag?_of_equals hequals
    rw [hflag, hname]
    cases hdrop : cs.dropWhile (· ≠ '=') with
    | nil => exact absurd (List.dropWhile_eq_nil_iff.mp hdrop _ hequals) (by simp)
    | cons d value =>
      simp only [hdrop] at h
      split at h
      · cases h
      next hvalue => cases hvalue
      · cases h
      · exact raises_setOption h
  · -- The name is all there is.
    have hall : ∀ c ∈ cs, decide (c ≠ '=') = true := by
      intro c hc
      exact decide_eq_true (ne_of_mem_of_not_mem hc hequals)
    simp only [List.takeWhile_eq_self_iff.mpr hall, List.dropWhile_eq_nil_iff.mpr hall] at h
    split at h
    · cases h
    next f hf _ =>
      obtain ⟨hname, hown⟩ := ofLong?_flag hf
      obtain ⟨rfl, hflag⟩ := hown.resolve_right (not_notice_of_raise h)
      rw [hname, hflag]
      exact raises_raise h
    next hvalue => cases hvalue
    next s hs =>
      obtain ⟨hname, hflag⟩ := ofLong?_setting hs
      rw [hname, hflag]
      exact raises_setOption h

/-- **What one argument does.** It is the value that an option waits for, or else it raises
the flags in it. -/
theorem raises_readOne {arg : String} {otherwise : Except Halt Given}
    (hother : otherwise = .ok g' → Raises level [] false g g')
    (h : g.readOne level arg otherwise = .ok g') :
    (g.isWaiting = true ∧ g'.isWaiting = false ∧ g'.flags = g.flags) ∨
      Raises level (flagsIn arg) (awaitsValue arg) g g' := by
  unfold readOne at h
  split at h
  next name harg =>
    simp only [flagsIn, awaitsValue, harg]
    exact .inr (raises_readLong h)
  next c cs hc harg =>
    obtain ⟨hflags, hwaits⟩ := flagsIn_letters harg hc
    rw [hflags, hwaits]
    exact .inr ((raises_readShorts h).resolve_left (by simp))
  next hshort =>
    obtain ⟨hflags, hwaits⟩ := flagsIn_value hshort
    rw [hflags, hwaits]
    split at h
    next s hpending =>
      cases h
      exact .inl ⟨by simp [isWaiting, hpending], rfl, rfl⟩
    · exact .inr (hother h)

/-! ## All arguments -/

/-- **The flags in force after the arguments of a command** are those that the arguments
give, raised one after the other. -/
theorem flags_readCommand {args : List String} (h : readCommand level g args = .ok g') :
    g'.flags = (flagsFrom g.isWaiting args).foldl withRaised g.flags := by
  -- Whether an option waits is kept in step with whether the next argument is a value.
  induction args generalizing g with
  | nil =>
    have hsettled := raises_settle level h
    rw [hsettled.ready]
    exact hsettled.inForce
  | cons arg rest ih =>
    rw [readCommand] at h
    split at h
    next hdashes =>
      obtain ⟨g₀, hsettle, hg'⟩ := exists_of_bind_eq_ok h
      cases hg'
      have hsettled := raises_settle level hsettle
      rw [hsettled.ready, flagsFrom, if_pos hdashes]
      exact hsettled.inForce
    next hdashes =>
      obtain ⟨g₀, hone, hrest⟩ := exists_of_bind_eq_ok h
      rcases raises_readOne raises_addValue hone with ⟨hwaiting, hvalue, hflags⟩ | hraised
      · rw [hwaiting, flagsFrom, ih hrest, hvalue, hflags]
      · rw [hraised.ready, flagsFrom, if_neg hdashes, List.foldl_append, ← hraised.inForce,
          ← hraised.waiting]
        exact ih hrest

end Steps

end Given

/-- Before a command no flag of a match is given. -/
theorem flagsFrom_readProgram {g outer : Given} {level : Level} {args rest : List String}
    (h : readProgram g args = .ok (outer, some (level, rest))) :
    flagsFrom g.isWaiting args = flagsGiven rest := by
  induction args generalizing g with
  | nil => simp [readProgram] at h
  | cons arg args ih =>
    obtain ⟨hdashes, ⟨hready, hname, rfl, _⟩ | ⟨g', hone, hmore⟩⟩ := readProgram_cons_cases h
    · obtain ⟨hflags, hwaits⟩ := flagsIn_command hname
      rw [hready, flagsFrom, if_neg hdashes, hflags, hwaits]
      rfl
    · rw [hmore] at h
      have hstep := Given.raises_readOne (fun hother => by cases hother) hone
      rcases hstep with ⟨hwaiting, hvalue, _⟩ | hraised
      · rw [hwaiting, flagsFrom, ← hvalue, ih h]
      · have hnone : flagsIn arg = [] := hraised.own.resolve_left (by decide)
        rw [hraised.ready, flagsFrom, if_neg hdashes, hnone, ← hraised.waiting, ih h]
        rfl

end TagQuery
