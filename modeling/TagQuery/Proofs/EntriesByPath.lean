import Mathlib.Data.List.Basic
import TagQuery.Files.Tree

/-!
Entries of a directory by their paths. A path that joins a directory and a name leads where
the entry leads that the directory has under the name, by whatever detours and links the
directory is reached.

* `FileTree.listed?`, `FileTree.entry?`: what a directory of a tree has under a name, and what
  that leads to;
* `follow_append`: a path is followed in two legs;
* `find_join`: **a joined path leads to the entry**, and to none if it cannot be asked for;
* `isFile_join_iff`, `leads_join_iff`, `bytes_join_iff`: what the three questions about a joined
  path ask.
-/

namespace TagQuery

/-- A name of an entry: a part of a path that is followed by looking it up. -/
structure Path.IsName (name : String) : Prop where
  slashless : '/' ∉ name.toList
  ne_empty : name ≠ ""
  ne_here : name ≠ "."
  ne_up : name ≠ ".."
  short : name.utf8ByteSize ≤ FileTree.nameLimit

/-- A path that the system can be asked for: no longer than it takes, and without the character
that ends a path. -/
structure Path.IsAskable (path : String) : Prop where
  short : path.utf8ByteSize ≤ 4095
  nulless : '\x00' ∉ path.toList

theorem Path.fault?_eq_none_iff (path : String) : fault? path = none ↔ IsAskable path := by
  unfold fault?
  by_cases hnul : '\x00' ∈ path.toList
  · simp only [List.contains_eq_mem, hnul, decide_true, if_true, reduceCtorEq, false_iff]
    exact fun h => h.nulless hnul
  · by_cases hsize : sizeLimit < path.utf8ByteSize
    · simp only [List.contains_eq_mem, hnul, hsize, decide_false, Bool.false_eq_true, if_false,
        if_true, reduceCtorEq, false_iff]
      exact fun h => absurd h.short (Nat.not_le.mpr hsize)
    · simp only [List.contains_eq_mem, hnul, hsize, decide_false, Bool.false_eq_true, if_false,
        true_iff]
      exact ⟨Nat.le_of_not_lt hsize, hnul⟩

namespace FileTree

/-- What a node has under a name. -/
def child? (name : String) : FileTree → Option FileTree
  | file _ | link _ => none
  | directory es => es.lookup name

/-- The place of a directory, as seen from `base`. -/
def place? (root : FileTree) (base directory : String) : Option Place :=
  (follow linkLimit [] root (partsOf (Path.join base directory))).toOption

/-- The entry that a directory has under a name, be it a link or not. -/
def listed? (root : FileTree) (base directory name : String) : Option FileTree :=
  (place? root base directory).bind fun p => child? name p.here

/-- Goes on from a link, if one more of `links` links may be followed. -/
def beyond : Nat → List FileTree → FileTree → List String → Except ReadFault Place
  | 0 => fun _ _ _ => .error .tooManyLinks
  | links + 1 => follow links

/-- Where a link that stands at a place leads. -/
def Place.jump (p : Place) (target : String) : Except ReadFault Place :=
  if Path.isRooted target.toList then
    beyond p.links [] (p.above.getLast?.getD p.here) (partsOf target)
  else beyond p.links p.above p.here (partsOf target)

/-- What an entry at a place leads to: a link to what its target leads to, if to anything, and
all else to itself. -/
def Place.led? (p : Place) : FileTree → Option FileTree
  | link target => (p.jump target).toOption.map Place.here
  | node => some node

/-- What the entry leads to that a directory has under a name. -/
def entry? (root : FileTree) (base directory name : String) : Option FileTree :=
  (place? root base directory).bind fun p => (child? name p.here).bind p.led?

/-! ## Following parts -/

theorem follow_eq_walk (links : Nat) : follow links = walk (beyond links) links := by
  cases links <;> rfl

/-- Up to the first link a path is walked in two legs, if from there on it is followed so. -/
theorem walk_append (links : Nat) (ys : List String)
    (hbeyond : ∀ above here xs, beyond links above here (xs ++ ys)
      = (beyond links above here xs).bind fun p => follow p.links p.above p.here ys)
    (above : List FileTree) (here : FileTree) (xs : List String) :
    walk (beyond links) links above here (xs ++ ys)
      = (walk (beyond links) links above here xs).bind
          fun p => follow p.links p.above p.here ys := by
  fun_induction walk (beyond links) links above here xs with
  | case1 above here =>
    rw [List.nil_append, ← follow_eq_walk]
    rfl
  | case2 above part path content => rfl
  | case3 above part path target => rfl
  | case4 above part path es hfiller ih => simpa [walk, hfiller] using ih
  | case5 path es hfiller ih => simpa [walk] using ih
  | case6 path es up rest hfiller ih => simpa [walk] using ih
  | case7 above part path es hfiller hup hlong =>
    simp only [List.cons_append, walk, hfiller, hup, hlong, if_false, if_true]
    rfl
  | case8 above part path es hfiller hup hshort hnone =>
    simp only [List.cons_append, walk, hfiller, hup, hshort, hnone, if_false]
    rfl
  | case9 above part path es hfiller hup hshort target hlink hrooted =>
    simp only [List.cons_append, walk, hfiller, hup, hshort, hlink, hrooted, Bool.false_eq_true,
      if_false, if_true]
    rw [← List.append_assoc, hbeyond]
  | case10 above part path es hfiller hup hshort target hlink hrooted =>
    simp only [List.cons_append, walk, hfiller, hup, hshort, hlink, hrooted, Bool.false_eq_true,
      if_false]
    rw [← List.append_assoc, hbeyond]
  | case11 above part path es hfiller hup hshort inner hlookup hinner ih =>
    simp only [List.cons_append, walk, hfiller, hup, hshort, hinner, if_false]
    exact ih

/-- **A path is followed in two legs**, the second from the place where the first one ends. -/
theorem follow_append (links : Nat) (above : List FileTree) (here : FileTree)
    (xs ys : List String) :
    follow links above here (xs ++ ys)
      = (follow links above here xs).bind fun p => follow p.links p.above p.here ys := by
  induction links generalizing above here xs with
  | zero =>
    rw [follow_eq_walk 0]
    exact walk_append 0 ys (fun _ _ _ => rfl) above here xs
  | succ links ih =>
    rw [follow_eq_walk (links + 1)]
    exact walk_append (links + 1) ys ih above here xs

/-- A name is looked up, and what is found is followed if it is a link. -/
theorem follow_name {name : String} (h : Path.IsName name) (p : Place) :
    (follow p.links p.above p.here [name]).toOption.map Place.here
      = (child? name p.here).bind p.led? := by
  obtain ⟨above, here, links⟩ := p
  rw [follow_eq_walk]
  cases here with
  | file content => rfl
  | link target => rfl
  | directory es =>
    have hshort : ¬nameLimit < name.utf8ByteSize := Nat.not_lt.mpr h.short
    simp only [walk, child?, h.ne_empty, h.ne_here, h.ne_up, hshort, decide_false, Bool.or_self,
      Bool.false_eq_true, if_false, List.append_nil]
    cases es.lookup name with
    | none => rfl
    | some node =>
      cases node with
      | file content => rfl
      | directory inner => rfl
      | link target => simp only [Option.bind_some, Place.led?, Place.jump]

/-- An empty part before another counts for nothing. -/
theorem follow_empty_part (links : Nat) (above : List FileTree) (here : FileTree)
    (path rest : List String) (part : String) :
    follow links above here (path ++ "" :: part :: rest)
      = follow links above here (path ++ part :: rest) := by
  rw [follow_append, follow_append]
  congr 1
  funext p
  rw [follow_eq_walk]
  cases p.here <;> simp [walk]

/-! ## Joined paths -/

theorem partsOf_name {name : String} (h : Path.IsName name) : partsOf name = [name] := by
  rw [partsOf, Path.parts, List.splitOn_eq_singleton h.slashless]
  simp

theorem partsOf_slash (path name : String) :
    partsOf (path ++ "/" ++ name) = partsOf path ++ partsOf name := by
  simp only [partsOf, Path.parts, String.toList_append]
  rw [show "/".toList = ['/'] from rfl, List.append_assoc, List.singleton_append,
    List.splitOn_append_cons_self, List.map_append]

/-- What stands between a directory and the rest of a path. -/
def joint (directory : String) : String :=
  if directory = "" || directory.toList.getLast? = some '/' then "" else "/"

theorem join_of_not_isRooted {path : String} (h : Path.isRooted path.toList = false)
    (directory : String) : Path.join directory path = directory ++ joint directory ++ path := by
  rw [Path.join, joint, h, Bool.false_or]
  by_cases hempty : directory = ""
  · simp [hempty]
  · by_cases hlast : directory.toList.getLast? = some '/' <;> simp [hempty, hlast]

theorem isRooted_name {name : String} (h : Path.IsName name) :
    Path.isRooted name.toList = false := by
  rw [Path.isRooted, decide_eq_false_iff_not]
  exact fun hfirst => h.slashless (List.mem_of_mem_head? hfirst)

theorem join_name {name : String} (h : Path.IsName name) (directory : String) :
    Path.join directory name = directory ++ joint directory ++ name :=
  join_of_not_isRooted (isRooted_name h) directory

/-- With a name behind it a path starts as before. -/
theorem isRooted_join_name {name : String} (h : Path.IsName name) (path : String) :
    Path.isRooted (Path.join path name).toList = Path.isRooted path.toList := by
  rw [join_name h]
  by_cases hempty : path = ""
  · have hname := isRooted_name h
    simpa [hempty, joint, Path.isRooted] using hname
  · obtain ⟨c, cs, hpath⟩ := List.exists_cons_of_ne_nil (by simpa using hempty : path.toList ≠ [])
    simp [Path.isRooted, hpath]

theorem joint_append (front : String) {path : String} (h : path ≠ "") :
    joint (front ++ path) = joint path := by
  have hne : path.toList ≠ [] := by simpa using h
  have hfull : front ++ path ≠ "" := by simp [h]
  simp [joint, h, hfull, List.getLast?_append_of_ne_nil _ hne]

theorem joint_append_joint (directory : String) : joint (directory ++ joint directory) = "" := by
  by_cases hempty : directory = ""
  · simp [joint, hempty]
  · by_cases hlast : directory.toList.getLast? = some '/' <;> simp [joint, hempty, hlast]

theorem join_join {name : String} (h : Path.IsName name) (base path : String) :
    Path.join base (Path.join path name) = Path.join (Path.join base path) name := by
  by_cases hrooted : Path.isRooted path.toList = true
  · have hjoined : Path.isRooted (Path.join path name).toList = true := by
      rw [isRooted_join_name h, hrooted]
    rw [Path.join, hjoined, Bool.true_or, if_pos rfl]
    rw [Path.join.eq_def base, hrooted, Bool.true_or, if_pos rfl]
  · rw [Bool.not_eq_true] at hrooted
    have hjoined : Path.isRooted (Path.join path name).toList = false := by
      rw [isRooted_join_name h, hrooted]
    rw [join_of_not_isRooted hjoined, join_of_not_isRooted hrooted, join_name h, join_name h]
    by_cases hempty : path = ""
    · have hnone : joint "" = "" := rfl
      rw [hempty, String.append_empty, hnone, joint_append_joint]
      simp
    · rw [joint_append _ hempty]
      simp only [String.append_assoc]

/-- A joined path leads where the name leads after the parts of the directory. -/
theorem follow_join {name : String} (h : Path.IsName name) (links : Nat) (above : List FileTree)
    (here : FileTree) (path : String) :
    follow links above here (partsOf (Path.join path name))
      = follow links above here (partsOf path ++ [name]) := by
  have hempty : partsOf "" = [""] := rfl
  rw [join_name h, joint]
  by_cases hpath : path = ""
  · rw [hpath, hempty]
    simpa [partsOf_name h] using (follow_empty_part links above here [] [] name).symm
  · by_cases hlast : path.toList.getLast? = some '/'
    · obtain ⟨front, hfront⟩ := List.getLast?_eq_some_iff.mp hlast
      have heq : path = String.ofList front ++ "/" ++ "" := by
        rw [← String.toList_inj, hfront]
        simp
      have hparts : partsOf path = partsOf (String.ofList front) ++ [""] := by
        rw [heq, partsOf_slash, hempty]
      have hjoined : partsOf (path ++ name) = partsOf (String.ofList front) ++ [name] := by
        rw [heq, String.append_empty, partsOf_slash, partsOf_name h]
      simp only [hlast, decide_true, Bool.or_true, if_true, String.append_empty]
      rw [hjoined, hparts, List.append_assoc]
      exact (follow_empty_part links above here _ [] name).symm
    · simp only [hpath, hlast, decide_false, Bool.or_self, Bool.false_eq_true, if_false]
      rw [partsOf_slash, partsOf_name h]

/-- **A joined path leads to the entry**, and to none if it cannot be asked for. -/
theorem find_join {name : String} (h : Path.IsName name) (root : FileTree) (base path : String)
    (node : FileTree) :
    root.find base (Path.join path name) = .ok node ↔
      Path.IsAskable (Path.join path name) ∧ root.entry? base path name = some node := by
  have hne : Path.join path name ≠ "" := by
    simp [join_name h, h.ne_empty]
  have hfollow : (follow linkLimit [] root
      (partsOf (Path.join base (Path.join path name)))).toOption.map Place.here
        = root.entry? base path name := by
    rw [join_join h, follow_join h, follow_append, entry?, place?]
    cases follow linkLimit [] root (partsOf (Path.join base path)) with
    | error fault => rfl
    | ok p => exact follow_name h p
  rw [find, if_neg hne, ← Path.fault?_eq_none_iff, ← hfollow]
  cases Path.fault? (Path.join path name) with
  | some fault => simp
  | none =>
    cases follow linkLimit [] root (partsOf (Path.join base (Path.join path name))) with
    | error fault => simp [Except.map, Except.toOption]
    | ok p => simp [Except.map, Except.toOption]

section Questions

variable {name : String} (h : Path.IsName name) (root : FileTree) (base path : String)

include h

theorem bytes_join_iff (content : List UInt8) :
    (root.files base).bytes (Path.join path name) = .ok content ↔
      Path.IsAskable (Path.join path name) ∧
        root.entry? base path name = some (.file content) := by
  rw [← find_join h, files]
  simp only
  cases root.find base (Path.join path name) with
  | error fault => simp [bind, Except.bind]
  | ok node => cases node <;> simp [bind, Except.bind, pure, Except.pure]

theorem isFile_join_iff : (root.files base).isFile (Path.join path name) ↔
    ∃ content, Path.IsAskable (Path.join path name) ∧
      root.entry? base path name = some (.file content) := by
  simp only [← find_join h, files]
  cases root.find base (Path.join path name) with
  | error fault => simp
  | ok node => cases node <;> simp

theorem leads_join_iff : (root.files base).leads (Path.join path name) ↔
    ∃ node, Path.IsAskable (Path.join path name) ∧
      root.entry? base path name = some node := by
  simp only [← find_join h, files]
  cases root.find base (Path.join path name) <;> simp [Except.isOk, Except.toBool]

end Questions

end FileTree

end TagQuery
