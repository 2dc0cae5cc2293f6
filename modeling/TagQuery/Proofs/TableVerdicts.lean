import TagQuery.Config.Basic
import TagQuery.Proofs.TomlValues

/-!
What the table of a configuration comes to. The version is looked at first, then the entry for
matching and its two flags, and the first thing that is wrong is told.

* `verdict`: what a table comes to;
* `Settles`, `Applies`, `IsFirst`, `Tells`: what a table settles, what may be wrong with it,
  which of its faults is told, and in which words;
* `verdict_eq_ok_iff`: when a table is accepted, and what it settles then;
* `verdict_eq_error_iff`: **a table is refused for the first fault that applies to it**;
* `verdict_congr`: nothing but the version and the flags has a say.
-/

namespace TagQuery.Config

open Toml (Value Table)

/-- What a value is called when another kind of value was expected. -/
def kind : Value → String
  | .scalar x => kindOf (.scalar x ⟨[], []⟩)
  | .array _ => "sequence"
  | .table _ => "map"

/-! ## What a table comes to -/

def versionVerdict : Option Value → Except ConfigFault Int
  | none => .error .missingVersion
  | some v =>
    match v.integer? with
    | none => .error (.versionType (kind v) "")
    | some n => if n = 1 then .ok n else .error (.unsupportedVersion n)

def flagVerdict (key : String) : Option Value → Except ConfigFault Bool
  | none => .ok true
  | some v =>
    match v.boolean? with
    | none => .error (.notBoolean key)
    | some b => .ok b

def optionsVerdict (es : Table) : Except ConfigFault MatchOptions := do
  let ignoreCase ← flagVerdict "ignore_case" (es.lookup "ignore_case")
  let wildcards ← flagVerdict "wildcard" (es.lookup "wildcard")
  return { ignoreCase, wildcards }

def matchVerdict : Option Value → Except ConfigFault MatchOptions
  | none => .ok {}
  | some v =>
    match v.table? with
    | none => .error .matchNotTable
    | some es => optionsVerdict es

def verdict (T : Table) : Except ConfigFault Config := do
  let version ← versionVerdict (T.lookup "version")
  let matching ← matchVerdict (T.lookup "match")
  return { version, matching }

/-! ## What a table says -/

/-- An entry says a flag, and one that is absent says that it holds. -/
def Says (es : Table) (key : String) (b : Bool) : Prop :=
  es.lookup key = some (.scalar (.boolean b)) ∨ es.lookup key = none ∧ b = true

def IsWrong (es : Table) (key : String) : Prop := ∃ v, es.lookup key = some v ∧ v.boolean? = none

/-- The options that an entry for matching settles. -/
def Settles : Option Value → MatchOptions → Prop
  | none, options => options.ignoreCase = true ∧ options.wildcards = true
  | some (.table es), options =>
    Says es "ignore_case" options.ignoreCase ∧ Says es "wildcard" options.wildcards
  | some _, _ => False

/-- A fault that a table has, whichever others it has. -/
def Applies (T : Table) : ConfigFault → Prop
  | .versionType found excerpt =>
    excerpt = "" ∧ ∃ v, T.lookup "version" = some v ∧ v.integer? = none ∧ found = kind v
  | .missingVersion => T.lookup "version" = none
  | .unsupportedVersion n => n ≠ 1 ∧ T.lookup "version" = some (.scalar (.integer n))
  | .matchNotTable => ∃ v, T.lookup "match" = some v ∧ v.table? = none
  | .notBoolean key => (key = "ignore_case" ∨ key = "wildcard") ∧
    ∃ es, T.lookup "match" = some (.table es) ∧ IsWrong es key
  | .malformed | .dateType _ _ => False

/-- The place of a fault in the order in which faults are told. -/
def rank : ConfigFault → Nat
  | .versionType _ _ => 0
  | .missingVersion => 1
  | .unsupportedVersion _ => 2
  | .matchNotTable => 3
  | .notBoolean key => if key = "ignore_case" then 4 else 5
  | .malformed | .dateType _ _ => 6

/-- The fault of a table that is told: it applies, and no other that applies comes before it. -/
structure IsFirst (T : Table) (fault : ConfigFault) : Prop where
  applies : Applies T fault
  least : ∀ other, Applies T other → rank fault ≤ rank other

/-- The words in which a fault is told. Of a version of a wrong type they come after the part of
the document that it stands in. -/
def Tells : ConfigFault → String → Prop
  | .versionType found _, message =>
    ∃ excerpt, message = excerpt ++ "invalid type: " ++ found ++ ", expected i64\n"
  | .missingVersion, message => message = "missing required field: version"
  | .unsupportedVersion n, message =>
    message = "unsupported config version " ++ toString n ++ " (supported: 1)"
  | .matchNotTable, message => message = "[match] must be a table"
  | .notBoolean key, message => message = "match." ++ key ++ " must be a boolean"
  | .malformed, _ | .dateType _ _, _ => False

theorem integer?_eq_some_iff (v : Value) (n : Int) :
    v.integer? = some n ↔ v = .scalar (.integer n) := by
  rcases v with (_ | _ | _ | _ | _) | _ | _ <;> simp [Value.integer?]

theorem boolean?_eq_some_iff (v : Value) (b : Bool) :
    v.boolean? = some b ↔ v = .scalar (.boolean b) := by
  rcases v with (_ | _ | _ | _ | _) | _ | _ <;> simp [Value.boolean?]

theorem table?_eq_some_iff (v : Value) (es : Table) : v.table? = some es ↔ v = .table es := by
  rcases v with _ | _ | _ <;> simp [Value.table?]

/-! ## One entry after the other -/

section Except

variable {ε α β : Type} {x : Except ε α} {f : α → Except ε β}

theorem bind_eq_ok_iff {b : β} : (x >>= f) = .ok b ↔ ∃ a, x = .ok a ∧ f a = .ok b := by
  cases x <;> simp [bind, Except.bind]

theorem bind_eq_error_iff {e : ε} :
    (x >>= f) = .error e ↔ x = .error e ∨ ∃ a, x = .ok a ∧ f a = .error e := by
  cases x <;> simp [bind, Except.bind]

end Except

theorem flagVerdict_eq_ok_iff (es : Table) (key : String) (b : Bool) :
    flagVerdict key (es.lookup key) = .ok b ↔ Says es key b := by
  rw [Says]
  cases es.lookup key with
  | none => simp [flagVerdict, eq_comm]
  | some v => cases hb : v.boolean? <;> simp [flagVerdict, hb, ← boolean?_eq_some_iff]

theorem flagVerdict_eq_error_iff (es : Table) (key : String) (fault : ConfigFault) :
    flagVerdict key (es.lookup key) = .error fault ↔ IsWrong es key ∧ fault = .notBoolean key := by
  rw [IsWrong]
  cases es.lookup key with
  | none => simp [flagVerdict]
  | some v => cases hb : v.boolean? <;> simp [flagVerdict, hb, eq_comm]

/-- A flag that is not wrong says something. -/
theorem exists_says_iff (es : Table) (key : String) : (∃ b, Says es key b) ↔ ¬IsWrong es key := by
  simp only [Says, IsWrong]
  cases es.lookup key with
  | none => simp
  | some v => cases hb : v.boolean? <;> simp [← boolean?_eq_some_iff, hb]

theorem optionsVerdict_eq_ok_iff (es : Table) (options : MatchOptions) :
    optionsVerdict es = .ok options ↔
      Says es "ignore_case" options.ignoreCase ∧ Says es "wildcard" options.wildcards := by
  obtain ⟨ignoreCase, wildcards⟩ := options
  simp only [optionsVerdict, bind_eq_ok_iff, flagVerdict_eq_ok_iff, pure, Except.pure,
    Except.ok.injEq, MatchOptions.mk.injEq]
  constructor
  · rintro ⟨_, hcase, _, hwild, rfl, rfl⟩
    exact ⟨hcase, hwild⟩
  · rintro ⟨hcase, hwild⟩
    exact ⟨_, hcase, _, hwild, rfl, rfl⟩

theorem optionsVerdict_eq_error_iff (es : Table) (fault : ConfigFault) :
    optionsVerdict es = .error fault ↔
      IsWrong es "ignore_case" ∧ fault = .notBoolean "ignore_case" ∨
      ¬IsWrong es "ignore_case" ∧ IsWrong es "wildcard" ∧ fault = .notBoolean "wildcard" := by
  simp [optionsVerdict, bind_eq_error_iff, flagVerdict_eq_error_iff, flagVerdict_eq_ok_iff,
    ← exists_says_iff, pure, Except.pure]

theorem matchVerdict_eq_ok_iff (m : Option Value) (options : MatchOptions) :
    matchVerdict m = .ok options ↔ Settles m options := by
  obtain ⟨ignoreCase, wildcards⟩ := options
  rcases m with _ | (x | items | es)
  · simp [matchVerdict, Settles, eq_comm]
  · simp [matchVerdict, Settles, Value.table?]
  · simp [matchVerdict, Settles, Value.table?]
  · exact optionsVerdict_eq_ok_iff es _

theorem matchVerdict_eq_error_iff (m : Option Value) (fault : ConfigFault) :
    matchVerdict m = .error fault ↔
      (∃ v, m = some v ∧ v.table? = none ∧ fault = .matchNotTable) ∨
      ∃ es, m = some (.table es) ∧ optionsVerdict es = .error fault := by
  rcases m with _ | (x | items | es) <;> simp [matchVerdict, Value.table?, eq_comm]

theorem versionVerdict_eq_ok_iff (v : Option Value) (n : Int) :
    versionVerdict v = .ok n ↔ n = 1 ∧ v = some (.scalar (.integer 1)) := by
  cases v with
  | none => simp [versionVerdict]
  | some v =>
    rw [Option.some.injEq, ← integer?_eq_some_iff, versionVerdict]
    cases v.integer? with
    | none => simp
    | some m => by_cases hm : m = 1 <;> simp [hm, eq_comm]

theorem versionVerdict_eq_error_iff (v : Option Value) (fault : ConfigFault) :
    versionVerdict v = .error fault ↔
      (∃ x, v = some x ∧ x.integer? = none ∧ fault = .versionType (kind x) "") ∨
      (v = none ∧ fault = .missingVersion) ∨
      ∃ n, v = some (.scalar (.integer n)) ∧ n ≠ 1 ∧ fault = .unsupportedVersion n := by
  cases v with
  | none => simp [versionVerdict, eq_comm]
  | some v =>
    simp only [Option.some.injEq, ← integer?_eq_some_iff, versionVerdict]
    cases hn : v.integer? with
    | none => simp [hn, eq_comm]
    | some m => by_cases hm : m = 1 <;> simp [hn, hm, eq_comm]

/-! ## Accepted and refused tables -/

theorem verdict_eq_ok_iff (T : Table) (config : Config) :
    verdict T = .ok config ↔ T.lookup "version" = some (.scalar (.integer 1)) ∧
      config.version = 1 ∧ Settles (T.lookup "match") config.matching := by
  obtain ⟨version, matching⟩ := config
  simp only [verdict, bind_eq_ok_iff, versionVerdict_eq_ok_iff, matchVerdict_eq_ok_iff, pure,
    Except.pure, Except.ok.injEq, Config.mk.injEq]
  constructor
  · rintro ⟨_, ⟨rfl, hversion⟩, _, hmatch, rfl, rfl⟩
    exact ⟨hversion, rfl, hmatch⟩
  · rintro ⟨hversion, rfl, hmatch⟩
    exact ⟨1, ⟨rfl, hversion⟩, matching, hmatch, rfl, rfl⟩

theorem verdict_eq_error_cases {T : Table} {fault : ConfigFault} (h : verdict T = .error fault) :
    versionVerdict (T.lookup "version") = .error fault ∨
      T.lookup "version" = some (.scalar (.integer 1)) ∧
        matchVerdict (T.lookup "match") = .error fault := by
  simp only [verdict, bind_eq_error_iff, versionVerdict_eq_ok_iff, pure, Except.pure] at h
  rcases h with h | ⟨_, ⟨-, hversion⟩, h | ⟨_, -, ⟨⟩⟩⟩
  · exact .inl h
  · exact .inr ⟨hversion, h⟩

section Order

variable {T : Table} {other : ConfigFault}

theorem one_le_rank (hversion : T.lookup "version" = none) (h : Applies T other) :
    1 ≤ rank other := by
  cases other <;> grind [Applies, rank]

theorem two_le_rank {n : Int} (hversion : T.lookup "version" = some (.scalar (.integer n)))
    (h : Applies T other) : 2 ≤ rank other := by
  cases other <;> grind [Applies, rank, Value.integer?]

theorem three_le_rank (hversion : T.lookup "version" = some (.scalar (.integer 1)))
    (h : Applies T other) : 3 ≤ rank other := by
  cases other <;> grind [Applies, rank, Value.integer?]

theorem four_le_rank {es : Table} (hversion : T.lookup "version" = some (.scalar (.integer 1)))
    (hmatch : T.lookup "match" = some (.table es)) (h : Applies T other) : 4 ≤ rank other := by
  cases other <;> grind [Applies, rank, Value.integer?, Value.table?]

theorem five_le_rank {es : Table} (hversion : T.lookup "version" = some (.scalar (.integer 1)))
    (hmatch : T.lookup "match" = some (.table es)) (hcase : ¬IsWrong es "ignore_case")
    (h : Applies T other) : 5 ≤ rank other := by
  cases other <;> grind [Applies, rank, Value.integer?, Value.table?]

end Order

theorem isFirst_of_verdict {T : Table} {fault : ConfigFault} (h : verdict T = .error fault) :
    IsFirst T fault := by
  rcases verdict_eq_error_cases h with h | ⟨hversion, h⟩
  · rcases (versionVerdict_eq_error_iff _ _).mp h with
      ⟨x, hx, hkind, rfl⟩ | ⟨hx, rfl⟩ | ⟨n, hx, hn, rfl⟩
    · exact ⟨⟨rfl, x, hx, hkind, rfl⟩, fun other _ => Nat.zero_le _⟩
    · exact ⟨hx, fun other => one_le_rank hx⟩
    · exact ⟨⟨hn, hx⟩, fun other => two_le_rank hx⟩
  · rcases (matchVerdict_eq_error_iff _ _).mp h with ⟨v, hv, htable, rfl⟩ | ⟨es, hes, h⟩
    · exact ⟨⟨v, hv, htable⟩, fun other => three_le_rank hversion⟩
    · rcases (optionsVerdict_eq_error_iff _ _).mp h with ⟨hcase, rfl⟩ | ⟨hcase, hwild, rfl⟩
      · exact ⟨⟨.inl rfl, es, hes, hcase⟩, fun other => four_le_rank hversion hes⟩
      · exact ⟨⟨.inr rfl, es, hes, hwild⟩, fun other => five_le_rank hversion hes hcase⟩

/-- Two faults of one table with the same place are the same. -/
theorem eq_of_rank_eq {T : Table} {fault other : ConfigFault} (h : Applies T fault)
    (hother : Applies T other) (hrank : rank fault = rank other) : fault = other := by
  cases fault <;> cases other <;> grind [Applies, rank]

theorem not_applies_of_accepted {T : Table} {config : Config} (h : verdict T = .ok config)
    (fault : ConfigFault) : ¬Applies T fault := by
  obtain ⟨hversion, -, hmatch⟩ := (verdict_eq_ok_iff T config).mp h
  have hright : ∀ es key b, Says es key b → ¬IsWrong es key := fun es key b hsays =>
    (exists_says_iff es key).mp ⟨b, hsays⟩
  intro happlies
  rcases hm : T.lookup "match" with _ | (x | items | es) <;> rw [hm] at hmatch <;>
    cases fault <;> grind [Applies, Value.integer?, Value.table?, Settles]

/-- **A table is refused for the first fault that applies to it.** -/
theorem verdict_eq_error_iff (T : Table) (fault : ConfigFault) :
    verdict T = .error fault ↔ IsFirst T fault := by
  constructor
  · exact isFirst_of_verdict
  · rintro ⟨happlies, hfirst⟩
    cases hverdict : verdict T with
    | ok config => exact absurd happlies (not_applies_of_accepted hverdict fault)
    | error told =>
      obtain ⟨htold, hleast⟩ := isFirst_of_verdict hverdict
      have hrank : rank told = rank fault :=
        Nat.le_antisymm (hleast fault happlies) (hfirst told htold)
      rw [eq_of_rank_eq htold happlies hrank]

/-! ## Other keys -/

/-- Entries for matching that are the same, or tables that say the same of both flags. -/
inductive SameMatch : Option Value → Option Value → Prop where
  | same (v : Option Value) : SameMatch v v
  | tables {es es' : Table} (hcase : es.lookup "ignore_case" = es'.lookup "ignore_case")
      (hwild : es.lookup "wildcard" = es'.lookup "wildcard") :
      SameMatch (some (.table es)) (some (.table es'))

/-- Tables that differ in other keys only, and in other keys of the table for matching. -/
structure SameSettings (T T' : Table) : Prop where
  version : T.lookup "version" = T'.lookup "version"
  matching : SameMatch (T.lookup "match") (T'.lookup "match")

theorem verdict_congr {T T' : Table} (h : SameSettings T T') : verdict T = verdict T' := by
  have hmatch : matchVerdict (T.lookup "match") = matchVerdict (T'.lookup "match") := by
    obtain ⟨-, hmatch⟩ := h
    generalize T.lookup "match" = m, T'.lookup "match" = m' at hmatch
    cases hmatch with
    | same v => rfl
    | tables hcase hwild => simp only [matchVerdict, Value.table?, optionsVerdict, hcase, hwild]
  rw [verdict, verdict, h.version, hmatch]

end TagQuery.Config
