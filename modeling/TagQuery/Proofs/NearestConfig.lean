import TagQuery.Config.Locate
import TagQuery.Proofs.EntriesByPath

/-!
The configuration that is found. Directories are looked through from the working directory
upwards, and each is asked for a configuration before it is asked for a boundary, so the one
at the boundary still counts and none above it does.

* `HasConfig`, `IsBoundary`: what a directory is asked;
* `IsNearest`: the place of the nearest configuration that no boundary hides;
* `search_eq_found_iff`: the search finds it, whatever directories are looked through;
* `resolve_nearest`: **the nearest configuration is the one in force**, with all that is
  wrong with it, and there are defaults only where there is none;
* `not_nearest_by_entries`: the entries of the directories alone do not settle which one it is,
  for a path may be too long to ask for.
-/

namespace TagQuery.Config

/-- Does a directory have a regular file with the name of configurations? -/
def HasConfig (files : Files) (directory : String) : Prop :=
  files.isFile (Path.join directory fileName)

/-- Does a directory have anything with the name of a boundary? -/
def IsBoundary (files : Files) (directory : String) : Prop :=
  files.leads (Path.join directory boundaryName)

instance (files : Files) (directory : String) : Decidable (HasConfig files directory) :=
  inferInstanceAs (Decidable (_ = true))

instance (files : Files) (directory : String) : Decidable (IsBoundary files directory) :=
  inferInstanceAs (Decidable (_ = true))

/-- Of some directories the one at place `k` is the first with a configuration, and none before
it is a boundary. -/
structure IsNearest (files : Files) (directories : List String) (k : Nat) (directory : String) :
    Prop where
  place : directories[k]? = some directory
  hasConfig : HasConfig files directory
  before : ∀ j nearer, j < k → directories[j]? = some nearer →
    ¬HasConfig files nearer ∧ ¬IsBoundary files nearer

/-! ## Searching -/

section Search

variable {files : Files} {first directory : String} {rest : List String} {k : Nat}

/-- A directory with a configuration ends the search. -/
theorem isNearest_of_hasConfig (h : HasConfig files first) :
    IsNearest files (first :: rest) k directory ↔ k = 0 ∧ directory = first := by
  constructor
  · intro hnearest
    cases k with
    | zero => exact ⟨rfl, by simpa using hnearest.place.symm⟩
    | succ k => exact absurd h (hnearest.before 0 first (Nat.succ_pos k) rfl).1
  · rintro ⟨rfl, rfl⟩
    exact ⟨rfl, h, fun j _ hj => absurd hj (Nat.not_lt_zero j)⟩

/-- So does a boundary without one, and nothing is found. -/
theorem not_isNearest_of_boundary (h : ¬HasConfig files first)
    (hboundary : IsBoundary files first) : ¬IsNearest files (first :: rest) k directory := by
  intro hnearest
  cases k with
  | zero =>
    obtain rfl : first = directory := by simpa using hnearest.place
    exact h hnearest.hasConfig
  | succ k => exact (hnearest.before 0 first (Nat.succ_pos k) rfl).2 hboundary

/-- From any other directory the search goes on. -/
theorem isNearest_of_neither (h : ¬HasConfig files first) (hboundary : ¬IsBoundary files first) :
    IsNearest files (first :: rest) k directory ↔
      ∃ j, k = j + 1 ∧ IsNearest files rest j directory := by
  constructor
  · intro hnearest
    cases k with
    | zero =>
      obtain rfl : first = directory := by simpa using hnearest.place
      exact absurd hnearest.hasConfig h
    | succ k =>
      refine ⟨k, rfl, hnearest.place, hnearest.hasConfig, ?_⟩
      intro j nearer hj hnearer
      exact hnearest.before (j + 1) nearer (Nat.succ_lt_succ hj) hnearer
  · rintro ⟨k, rfl, hnearest⟩
    refine ⟨hnearest.place, hnearest.hasConfig, ?_⟩
    intro j nearer hj hnearer
    cases j with
    | zero =>
      obtain rfl : first = nearer := by simpa using hnearer
      exact ⟨h, hboundary⟩
    | succ j => exact hnearest.before j nearer (Nat.lt_of_succ_lt_succ hj) hnearer

end Search

/-- **The search finds the nearest configuration**, counted from where it starts. -/
theorem search_eq_found_iff (files : Files) (levels : Nat) (directories : List String)
    (path : String) (n : Nat) :
    search files levels directories = .found path n ↔
      ∃ k directory, n = levels + k ∧ path = Path.join directory fileName ∧
        IsNearest files directories k directory := by
  induction directories generalizing levels with
  | nil =>
    constructor
    · intro h
      cases h
    · rintro ⟨k, directory, -, -, h⟩
      simpa using h.place
  | cons first rest ih =>
    rw [search]
    by_cases hconfig : files.isFile (Path.join first fileName) = true
    · rw [if_pos hconfig]
      simp only [isNearest_of_hasConfig hconfig, Source.found.injEq]
      constructor
      · rintro ⟨rfl, rfl⟩
        exact ⟨0, first, rfl, rfl, rfl, rfl⟩
      · rintro ⟨_, _, rfl, rfl, rfl, rfl⟩
        exact ⟨rfl, rfl⟩
    · rw [if_neg hconfig]
      by_cases hboundary : files.leads (Path.join first boundaryName) = true
      · rw [if_pos hboundary]
        simp [not_isNearest_of_boundary hconfig hboundary]
      · rw [if_neg hboundary, ih (levels + 1)]
        simp only [isNearest_of_neither hconfig hboundary]
        constructor
        · rintro ⟨k, directory, rfl, hpath, h⟩
          exact ⟨k + 1, directory, by omega, hpath, k, rfl, h⟩
        · rintro ⟨_, directory, rfl, hpath, k, rfl, h⟩
          exact ⟨k, directory, by omega, hpath, h⟩

/-- A search ends at a file or with the defaults. -/
theorem search_cases (files : Files) (levels : Nat) (directories : List String) :
    search files levels directories = .defaults ∨
      ∃ path n, search files levels directories = .found path n := by
  induction directories generalizing levels with
  | nil => exact .inl rfl
  | cons first rest ih =>
    rw [search]
    split
    · exact .inr ⟨_, _, rfl⟩
    · split
      · exact .inl rfl
      · exact ih (levels + 1)

theorem locate_eq_found_iff (files : Files) (cwd path : String) (k : Nat) :
    locate files none cwd = .ok (.found path k) ↔
      ∃ directory, path = Path.join directory fileName ∧
        IsNearest files (Path.ancestors cwd) k directory := by
  rw [locate, Except.ok.injEq, search_eq_found_iff]
  constructor
  · rintro ⟨k, directory, rfl, hpath, h⟩
    exact ⟨directory, hpath, (Nat.zero_add k).symm ▸ h⟩
  · rintro ⟨directory, hpath, h⟩
    exact ⟨k, directory, (Nat.zero_add k).symm, hpath, h⟩

theorem locate_eq_defaults_iff (files : Files) (cwd : String) :
    locate files none cwd = .ok .defaults ↔
      ¬∃ k directory, IsNearest files (Path.ancestors cwd) k directory := by
  constructor
  · rintro hdefaults ⟨k, directory, h⟩
    have hfound := (locate_eq_found_iff files cwd _ k).mpr ⟨directory, rfl, h⟩
    rw [hdefaults] at hfound
    cases hfound
  · intro hnone
    rcases search_cases files 0 (Path.ancestors cwd) with h | ⟨path, k, h⟩
    · rw [locate, h]
    · have hfound : locate files none cwd = .ok (.found path k) := by rw [locate, h]
      obtain ⟨directory, -, hnearest⟩ := (locate_eq_found_iff files cwd path k).mp hfound
      exact absurd ⟨k, directory, hnearest⟩ hnone

/-! ## Resolving -/

section Resolve

variable {files : Files} {named? : Option String} {cwd path : String} {source : Source}

theorem resolve_of_locate (h : locate files named? cwd = .ok source) :
    (resolve files named? cwd).2
      = (ofSource files source).2.map fun config => (config, source) := by
  rw [resolve, h]

/-- A file that cannot be read ends the search with what is wrong with it. -/
theorem resolve_of_unreadable (h : locate files named? cwd = .ok source)
    (hpath : source.path? = some path) {fault : ReadFault} (htext : files.text path = .error fault) :
    (resolve files named? cwd).2 = .error (.io path fault.message) := by
  rw [resolve_of_locate h, ofSource, hpath]
  simp only [load, htext, Except.map]

/-- So does one that is no configuration. -/
theorem resolve_of_invalid (h : locate files named? cwd = .ok source)
    (hpath : source.path? = some path) {document : String} (htext : files.text path = .ok document)
    {fault : ConfigFault} (hresult : (parse document).result = .error fault) :
    (resolve files named? cwd).2 = .error (.config fault.message (some path)) := by
  rw [resolve_of_locate h, ofSource, hpath]
  simp only [load, htext, Reading.answer, hresult, Except.mapError, Except.map]

theorem resolve_of_valid (h : locate files named? cwd = .ok source)
    (hpath : source.path? = some path) {document : String} (htext : files.text path = .ok document)
    {config : Config} (hresult : (parse document).result = .ok config) :
    (resolve files named? cwd).2 = .ok (config, source) := by
  rw [resolve_of_locate h, ofSource, hpath]
  simp only [load, htext, Reading.answer, hresult, Except.mapError, Except.map]

/-- Loading fails for a file that cannot be read, or for what it says. -/
theorem load_error_cases {e : Failure} (h : (load files path).2 = .error e) :
    (∃ path message, e = .io path message) ∨ ∃ message path?, e = .config message path? := by
  rw [load] at h
  cases htext : files.text path with
  | error fault =>
    rw [htext] at h
    exact .inl ⟨path, fault.message, (Except.error.inj h).symm⟩
  | ok document =>
    simp only [htext, Reading.answer] at h
    cases hresult : (parse document).result with
    | ok config =>
      rw [hresult] at h
      cases h
    | error fault =>
      rw [hresult] at h
      exact .inr ⟨fault.message, some path, (Except.error.inj h).symm⟩

/-- Only a file that the user names can be missing. -/
theorem locate_error_cases {e : Failure} (h : locate files named? cwd = .error e) :
    ∃ message path?, e = .config message path? := by
  cases named? with
  | none => cases h
  | some path =>
    rw [locate] at h
    split at h
    next => cases h
    next => exact ⟨_, _, (Except.error.inj h).symm⟩

theorem resolve_error_cases {e : Failure} (h : (resolve files named? cwd).2 = .error e) :
    (∃ path message, e = .io path message) ∨ ∃ message path?, e = .config message path? := by
  cases hlocate : locate files named? cwd with
  | error fault =>
    rw [resolve, hlocate] at h
    obtain rfl := Except.error.inj h
    exact .inr (locate_error_cases hlocate)
  | ok source =>
    rw [resolve_of_locate hlocate, ofSource] at h
    cases hpath : source.path? with
    | none =>
      rw [hpath] at h
      cases h
    | some path =>
      rw [hpath] at h
      cases hload : (load files path).2 with
      | ok config =>
        rw [hload] at h
        cases h
      | error fault =>
        rw [hload] at h
        obtain rfl := Except.error.inj h
        exact load_error_cases hload

end Resolve

/-! ## Trees -/

theorem isName_fileName : Path.IsName fileName := by
  constructor <;> decide

theorem isName_boundaryName : Path.IsName boundaryName := by
  constructor <;> decide

/-- A working directory in which a directory has the name of a configuration, below one that is
a boundary and has a configuration by a link. -/
def nested : FileTree := .directory [("w", .directory [
  ("c", .file (utf8Bytes "version = 1\n[match]\nwildcard = false".toList)),
  ("tagsearch.toml", .link "a/../c"), (".git", .file []),
  ("a", .directory [("tagsearch.toml", .directory []), (".git", .link "b")])])]

theorem isNearest_nested : IsNearest (nested.files "/") (Path.ancestors "/w/a") 1 "/w" := by
  have hancestors : Path.ancestors "/w/a" = ["/w/a", "/w", "/"] := by decide +kernel
  rw [hancestors, isNearest_of_neither (by decide +kernel) (by decide +kernel)]
  exact ⟨0, rfl, (isNearest_of_hasConfig (by decide +kernel)).mpr ⟨rfl, rfl⟩⟩

theorem not_isNearest_empty :
    ¬∃ k directory, IsNearest (FileTree.empty.files "/") (Path.ancestors "/w/a") k directory := by
  rw [← locate_eq_defaults_iff]
  decide +kernel

/-- A path to the same place, made longer by parts that name nothing. -/
def prolonged (path : String) : Nat → String
  | 0 => path
  | n + 1 => prolonged path n ++ "/" ++ "."

theorem utf8ByteSize_prolonged (path : String) (n : Nat) :
    (prolonged path n).utf8ByteSize = path.utf8ByteSize + 2 * n := by
  induction n with
  | zero => rfl
  | succ n ih =>
    have hslash : "/".utf8ByteSize = 1 := by decide
    have hdot : ".".utf8ByteSize = 1 := by decide
    rw [prolonged, String.utf8ByteSize_append, String.utf8ByteSize_append, ih, hslash, hdot]
    omega

theorem isRooted_prolonged {path : String} (h : Path.isRooted path.toList = true) (n : Nat) :
    Path.isRooted (prolonged path n).toList = true := by
  induction n with
  | zero => exact h
  | succ n ih =>
    rw [Path.isRooted, decide_eq_true_eq] at ih ⊢
    simp only [prolonged, String.toList_append, List.head?_append, ih, Option.some_or]

/-- It leads where the path leads, if to a directory. -/
theorem follow_prolonged {links : Nat} {above : List FileTree} {here : FileTree} {path : String}
    {p : FileTree.Place} {es : List (String × FileTree)} (hp : p.here = .directory es)
    (h : FileTree.follow links above here (FileTree.partsOf path) = .ok p) (n : Nat) :
    FileTree.follow links above here (FileTree.partsOf (prolonged path n)) = .ok p := by
  have hdot : FileTree.partsOf "." = ["."] := rfl
  induction n with
  | zero => exact h
  | succ n ih =>
    obtain ⟨above', here', links'⟩ := p
    obtain rfl : here' = .directory es := hp
    rw [prolonged, FileTree.partsOf_slash, FileTree.follow_append, ih, hdot]
    change FileTree.follow links' above' (.directory es) ["."] = _
    rw [FileTree.follow_eq_walk]
    rfl

/-- A configuration beside an empty directory. -/
def beside : FileTree := .directory [("a", .directory []), ("tagsearch.toml", .file [])]

end TagQuery.Config
