import TagQuery.Toml.Dates
import TagQuery.Toml.Document

/-!
What a document says. Nodes remember where they are written and how tables came to be;
without that there are values, and a document is a table of them.

* `Node.value`, `tableOf`: the values of nodes and entries;
* `Value.names`: the keys in a value, at any depth;
* `checkDates_of_notMem`: a value without the key of dates has no table to check.
-/

namespace TagQuery.Toml

inductive Value where
  | scalar (x : Scalar)
  | array (items : List Value)
  | table (entries : List (String × Value))

abbrev Table := List (String × Value)

namespace Value

def integer? : Value → Option Int
  | scalar (.integer n) => some n
  | _ => none

def boolean? : Value → Option Bool
  | scalar (.boolean b) => some b
  | _ => none

def table? : Value → Option Table
  | table es => some es
  | _ => none

end Value

mutual

def Node.value : Node → Value
  | .scalar x _ => .scalar x
  | .array items _ => .array (valuesOf items)
  | .table _ _ es => .table (tableOf es)
  | .tables blocks => .array (valuesOf blocks).reverse

def valuesOf : List Node → List Value
  | [] => []
  | x :: rest => x.value :: valuesOf rest

def tableOf : List (Key × Node) → Table
  | [] => []
  | (key, x) :: rest => (key.name, x.value) :: tableOf rest

end

/-- The table that a document says, if it is well formed. -/
def table? (document : String) : Option Table := (read document).map tableOf

mutual

/-- The keys of a value and of all values in it. -/
def Value.names : Value → List String
  | .scalar _ => []
  | .array items => namesIn items
  | .table es => namesOf es

def namesIn : List Value → List String
  | [] => []
  | x :: rest => x.names ++ namesIn rest

def namesOf : List (String × Value) → List String
  | [] => []
  | (name, x) :: rest => name :: (x.names ++ namesOf rest)

end

/-! ## Entries -/

theorem tableOf_eq_map (es : Entries) : tableOf es = es.map fun e => (e.1.name, e.2.value) := by
  induction es with
  | nil => rfl
  | cons e es ih => rw [tableOf, ih, List.map_cons]

theorem keys_tableOf (es : Entries) : (tableOf es).map Prod.fst = es.keys := by
  rw [tableOf_eq_map, List.map_map]
  rfl

theorem lookup_tableOf (es : Entries) (name : String) :
    (tableOf es).lookup name = (es.find? name).map fun e => e.2.value := by
  rw [tableOf_eq_map, Entries.find?]
  induction es with
  | nil => rfl
  | cons e es ih =>
    by_cases h : e.1.name = name
    · subst h
      simp
    · have hne : (name == e.1.name) = false := by simpa using Ne.symm h
      simp [List.lookup_cons, hne, h, ih]

/-! ## Names -/

theorem mem_namesIn_iff (name : String) (xs : List Value) :
    name ∈ namesIn xs ↔ ∃ x ∈ xs, name ∈ x.names := by
  induction xs with
  | nil => simp [namesIn]
  | cons x xs ih => simp [namesIn, ih]

theorem mem_namesOf_iff (name : String) (es : Entries) :
    name ∈ namesOf (tableOf es) ↔ ∃ e ∈ es, name = e.1.name ∨ name ∈ e.2.value.names := by
  induction es with
  | nil => simp [tableOf, namesOf]
  | cons e es ih => simp [tableOf, namesOf, ih, or_assoc]

mutual

theorem checkDates_of_notMem (alone : Bool) :
    ∀ x : Node, dateKey ∉ x.value.names → x.checkDates alone = .ok ()
  | .scalar _ _, _ => rfl
  | .array items _, h => by
    rw [Node.checkDates]
    exact checkItems_of_notMem alone items h
  | .tables blocks, h => by
    rw [Node.checkDates]
    apply checkBlocks_of_notMem alone blocks
    rw [Node.value, Value.names, mem_namesIn_iff] at h
    rw [mem_namesIn_iff]
    simpa using h
  | .table _ _ [], _ => rfl
  | .table _ _ ((key, x) :: rest), h => by
    rw [Node.value, tableOf, Value.names, namesOf] at h
    simp only [List.mem_cons, List.mem_append, not_or] at h
    rw [Node.checkDates, if_neg (Ne.symm h.1), checkDates_of_notMem alone x h.2.1]
    exact checkValues_of_notMem alone rest h.2.2

theorem checkItems_of_notMem (alone : Bool) :
    ∀ items : List Node, dateKey ∉ namesIn (valuesOf items) → checkItems alone items = .ok ()
  | [], _ => rfl
  | x :: rest, h => by
    rw [valuesOf, namesIn, List.mem_append, not_or] at h
    rw [checkItems, checkDates_of_notMem alone x h.1]
    exact checkItems_of_notMem alone rest h.2

theorem checkBlocks_of_notMem (alone : Bool) :
    ∀ blocks : List Node, dateKey ∉ namesIn (valuesOf blocks) → checkBlocks alone blocks = .ok ()
  | [], _ => rfl
  | x :: older, h => by
    rw [valuesOf, namesIn, List.mem_append, not_or] at h
    rw [checkBlocks, checkBlocks_of_notMem alone older h.2]
    exact checkDates_of_notMem alone x h.1

theorem checkValues_of_notMem (alone : Bool) :
    ∀ es : List (Key × Node), dateKey ∉ namesOf (tableOf es) → checkValues alone es = .ok ()
  | [], _ => rfl
  | (key, x) :: rest, h => by
    rw [tableOf, namesOf] at h
    simp only [List.mem_cons, List.mem_append, not_or] at h
    rw [checkValues, checkDates_of_notMem alone x h.2.1]
    exact checkValues_of_notMem alone rest h.2.2

end

end TagQuery.Toml
