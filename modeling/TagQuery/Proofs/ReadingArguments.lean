import TagQuery.CommandLine.Parser

/-!
Arguments of the program and of its command, and values put at their end.

* `readCommand_withValues`: **values behind two dashes are taken as they are, and nothing
  else is read differently for them**;
* `readProgram_cons_cases`: before the command each argument names it or is read by itself;
* `exists_of_readProgram`: what stands before the arguments of a command decides the
  command and leaves its arguments alone;
* `exists_of_readArguments`: a request is that of the arguments of its command.
-/

namespace TagQuery

/-- Arguments with values at their end, behind two dashes. -/
def withValues (args values : List String) : List String :=
  if "--" ∈ args then args ++ values else args ++ "--" :: values

theorem withValues_append {front : List String} (h : "--" ∉ front) (args values : List String) :
    withValues (front ++ args) values = front ++ withValues args values := by
  unfold withValues
  by_cases hargs : "--" ∈ args <;> simp [h, hargs]

namespace Given

def addValues (g : Given) (values : List String) : Given :=
  { g with values := values.reverse ++ g.values }

theorem readCommand_withValues (level : Level) (g : Given) (args values : List String) :
    readCommand level g (withValues args values)
      = (readCommand level g args).map fun g => g.addValues values := by
  induction args generalizing g with
  | nil =>
    simp only [withValues, List.not_mem_nil, ↓reduceIte, List.nil_append, readCommand]
    cases g.settle <;> rfl
  | cons arg args ih =>
    by_cases hdashes : arg = "--"
    · subst hdashes
      simp only [withValues, List.mem_cons_self, ↓reduceIte, List.cons_append, readCommand]
      cases g.settle with
      | error halt => rfl
      | ok g => simp [addValues, pure, bind, Except.map, Except.pure, Except.bind]
    · have hne : "--" ∉ [arg] := by simpa using Ne.symm hdashes
      rw [show arg :: args = [arg] ++ args from rfl, withValues_append hne]
      simp only [List.singleton_append, readCommand, if_neg hdashes]
      cases g.readOne level arg (g.addValue arg) with
      | error halt => rfl
      | ok g => exact ih g

end Given

theorem exists_of_bind_eq_ok {α β : Type} {x : Except Halt α} {f : α → Except Halt β}
    {b : β} (h : (x >>= f) = .ok b) : ∃ a, x = .ok a ∧ f a = .ok b := by
  cases x with
  | error halt => cases h
  | ok a => exact ⟨a, rfl, h⟩

/-- Before a command an argument is the name of the command, or it is read by itself. -/
theorem readProgram_cons_cases {g outer : Given} {level : Level} {arg : String}
    {args rest : List String} (h : readProgram g (arg :: args) = .ok (outer, some (level, rest))) :
    arg ≠ "--" ∧
      ((g.isWaiting = false ∧ Level.ofName? arg = some level ∧ rest = args ∧
          ∀ more, readProgram g (arg :: more) = .ok (outer, some (level, more))) ∨
        ∃ g', g.readOne .program arg (Given.fail (.unknownCommand arg)) = .ok g' ∧
          ∀ more, readProgram g (arg :: more) = readProgram g' more) := by
  cases hname : if g.isWaiting then none else Level.ofName? arg with
  | some name =>
    have hready : g.isWaiting = false ∧ Level.ofName? arg = some name := by
      simpa using hname
    have hne : arg ≠ "--" := by
      rintro rfl
      simp [Level.ofName?] at hready
    simp only [readProgram, hname, Except.ok.injEq, Prod.mk.injEq, Option.some.injEq] at h
    obtain ⟨rfl, rfl, rfl⟩ := h
    refine ⟨hne, .inl ⟨hready.1, hready.2, rfl, fun more => ?_⟩⟩
    simp only [readProgram, hname]
  | none =>
    by_cases hhelp : (!g.isWaiting && decide (arg = "help")) = true
    · simp only [readProgram, hname, if_pos hhelp] at h
      obtain ⟨_, _, herror⟩ := exists_of_bind_eq_ok h
      cases herror
    by_cases hdashes : arg = "--"
    · simp only [readProgram, hname, if_neg hhelp, if_pos hdashes] at h
      split at h
      · simp at h
      · split at h <;> cases h
    simp only [readProgram, hname, if_neg hhelp, if_neg hdashes] at h
    obtain ⟨g', hstep, _⟩ := exists_of_bind_eq_ok h
    refine ⟨hdashes, .inr ⟨g', hstep, fun more => ?_⟩⟩
    simp only [readProgram, hname, if_neg hhelp, if_neg hdashes, hstep]
    rfl

/-- **What stands before the arguments of a command** decides the command and leaves its
arguments alone. -/
theorem exists_of_readProgram {g outer : Given} {level : Level} {args rest : List String}
    (h : readProgram g args = .ok (outer, some (level, rest))) :
    ∃ front, args = front ++ rest ∧ "--" ∉ front ∧
      ∀ more, readProgram g (front ++ more) = .ok (outer, some (level, more)) := by
  induction args generalizing g with
  | nil => simp [readProgram] at h
  | cons arg args ih =>
    obtain ⟨hdashes, ⟨_, _, rfl, hmore⟩ | ⟨g', _, hstep⟩⟩ := readProgram_cons_cases h
    · exact ⟨[arg], rfl, by simpa using Ne.symm hdashes, hmore⟩
    · rw [hstep] at h
      obtain ⟨front, rfl, hfront, hmore⟩ := ih h
      refine ⟨arg :: front, rfl, ?_, fun more => ?_⟩
      · simpa [hfront] using Ne.symm hdashes
      · rw [List.cons_append, hstep, hmore]

/-- An invocation with a request has a command, and the request is that of its arguments. -/
theorem exists_of_readArguments {fallback? named? : Option String} {args : List String}
    {r : Request} (h : readArguments fallback? args = .ok ⟨named?, some r⟩) :
    ∃ outer level rest inner, readProgram {} args = .ok (outer, some (level, rest)) ∧
      Given.readCommand level {} rest = .ok inner ∧ inner.request level = .ok (some r) := by
  obtain ⟨⟨outer, command?⟩, hread, h⟩ := exists_of_bind_eq_ok h
  cases command? with
  | none =>
    obtain ⟨_, hnone, h⟩ := exists_of_bind_eq_ok h
    obtain ⟨_, _, h⟩ := exists_of_bind_eq_ok h
    obtain ⟨_, _, h⟩ := exists_of_bind_eq_ok h
    cases hnone
    cases h
  | some command =>
    obtain ⟨level, rest⟩ := command
    obtain ⟨inner, hinner, h⟩ := exists_of_bind_eq_ok h
    obtain ⟨_, _, h⟩ := exists_of_bind_eq_ok h
    obtain ⟨request?, hrequest, h⟩ := exists_of_bind_eq_ok h
    obtain ⟨_, hpair, h⟩ := exists_of_bind_eq_ok h
    obtain ⟨_, _, h⟩ := exists_of_bind_eq_ok h
    obtain ⟨_, _, h⟩ := exists_of_bind_eq_ok h
    cases hpair
    obtain rfl : request? = some r := (Invocation.mk.inj (Except.ok.inj h)).2
    exact ⟨outer, level, rest, inner, hread, hinner, hrequest⟩

end TagQuery
