import TagQuery.Output.Report
import TagQuery.Proofs.JsonReader

/-!
Parsed queries read back from the document that lists them.

The readers here take the fields of a record by their names: the `type` of a record says
whether a component is a term or a tag filter, and the excluded and exact marks stand in
the record of what they belong to.

* `Component.ofValue_toJson`, `ParsedQuery.ofValue_toJson`: what is shown of a component
  or a query tells all of it;
* `parsed_queries_read_back`: **a list of parsed queries is read back from its document**,
  so no two lists have the same one.
-/

namespace TagQuery

namespace Json

namespace Value

/-- The first field of that name, in a record. -/
def field (name : String) : Value → Option Value
  | record fields => fields.lookup name
  | _ => none

def text? : Value → Option String
  | text s => some s
  | _ => none

def bool? : Value → Option Bool
  | bool b => some b
  | _ => none

def items? : Value → Option (List Value)
  | list items => some items
  | _ => none

end Value

/-- Items that are each read as what they were written from make up the same list. -/
theorem mapM_saidItems {α : Type} {write : α → Json} {read : Value → Option α}
    (h : ∀ x, read (said (write x)) = some x) (xs : List α) :
    (saidItems (xs.map write)).mapM read = some xs := by
  induction xs with
  | nil => rfl
  | cons x xs ih =>
    rw [List.map_cons, saidItems, List.mapM_cons, h, ih]
    rfl

end Json

open Json (Value said saidItems saidFields)

/-! ## Readers -/

def Modifiers.ofValue (v : Value) : Option Modifiers := do
  let excluded ← (← v.field "excluded").bool?
  let exact ← (← v.field "exact").bool?
  return ⟨excluded, exact⟩

/-- A piece of a term is a record of the type `string`. -/
def pieceOfValue (v : Value) : Option String := do
  let kind ← (← v.field "type").text?
  if kind = "string" then (← v.field "value").text? else none

def Term.ofValue (v : Value) : Option Term := do
  let pieces ← (← (← v.field "components").items?).mapM pieceOfValue
  return ⟨pieces, ← Modifiers.ofValue v⟩

def Component.ofValue (v : Value) : Option Component := do
  let kind ← (← v.field "type").text?
  if kind = "text" then return .term (← Term.ofValue v)
  else if kind = "namespace" then
    let name ← (← v.field "namespace").text?
    let tag ← Term.ofValue (← v.field "tag")
    return .filter ⟨name, tag, ← Modifiers.ofValue v⟩
  else none

def ParsedQuery.ofValue (v : Value) : Option ParsedQuery := do
  let query ← (← v.field "query").text?
  let components ← (← (← v.field "components").items?).mapM Component.ofValue
  return ⟨query, components⟩

/-- The parsed queries that a document lists. -/
def readParsedQueries (document : String) : Option (List ParsedQuery) := do
  (← (← Json.read document.toList).items?).mapM ParsedQuery.ofValue

/-! ## Reading what was shown -/

/-- Marks are read from the two fields that show them, whatever else is in the record. -/
theorem Modifiers.ofValue_of_fields {v : Value} {m : Modifiers}
    (hexcluded : v.field "excluded" = some (.bool m.excluded))
    (hexact : v.field "exact" = some (.bool m.exact)) : Modifiers.ofValue v = some m := by
  rw [Modifiers.ofValue, hexcluded, hexact]
  rfl

/-- A term is read from the fields that show it: those of a tag stand alone in their
record, those of a component after its type. -/
theorem Term.ofValue_of_fields {v : Value} {t : Term}
    (hpieces : v.field "components" = some (.list (saidItems (t.pieces.map fun p =>
      .record [("type", .text "string"), ("value", .text p)]))))
    (hmodifiers : Modifiers.ofValue v = some t.modifiers) : Term.ofValue v = some t := by
  have hitems : (saidItems (t.pieces.map fun p =>
      .record [("type", .text "string"), ("value", .text p)])).mapM pieceOfValue
        = some t.pieces :=
    Json.mapM_saidItems (fun p => rfl) t.pieces
  rw [Term.ofValue, hpieces, Option.bind_eq_bind, Option.bind_some, Value.items?]
  simp only [Option.bind_eq_bind, Option.bind_some, hitems, hmodifiers]
  rfl

theorem Component.ofValue_toJson (c : Component) : Component.ofValue (said c.toJson) = some c := by
  cases c with
  | term t =>
    have hkind : (said (Component.term t).toJson).field "type" = some (.text "text") := rfl
    have hterm : Term.ofValue (said (Component.term t).toJson) = some t :=
      Term.ofValue_of_fields rfl (Modifiers.ofValue_of_fields rfl rfl)
    rw [Component.ofValue, hkind, hterm]
    rfl
  | filter f =>
    have hkind : (said (Component.filter f).toJson).field "type" = some (.text "namespace") := rfl
    have hname : (said (Component.filter f).toJson).field "namespace" = some (.text f.name) := rfl
    have hfield : (said (Component.filter f).toJson).field "tag"
        = some (said (.record f.tag.toFields)) := rfl
    have htag : Term.ofValue (said (.record f.tag.toFields)) = some f.tag :=
      Term.ofValue_of_fields rfl (Modifiers.ofValue_of_fields rfl rfl)
    have hmodifiers : Modifiers.ofValue (said (Component.filter f).toJson) = some f.modifiers :=
      Modifiers.ofValue_of_fields rfl rfl
    simp [Component.ofValue, Value.text?, hkind, hname, hfield, htag, hmodifiers]

theorem ParsedQuery.ofValue_toJson (p : ParsedQuery) :
    ParsedQuery.ofValue (said p.toJson) = some p := by
  have hquery : (said p.toJson).field "query" = some (.text p.query) := rfl
  have hfield : (said p.toJson).field "components"
      = some (.list (saidItems (p.components.map Component.toJson))) := rfl
  have hcomponents := Json.mapM_saidItems Component.ofValue_toJson p.components
  simp [ParsedQuery.ofValue, Value.text?, Value.items?, hquery, hfield, hcomponents]

theorem readParsedQueries_document (parsed : List ParsedQuery) :
    readParsedQueries (Json.list (parsed.map ParsedQuery.toJson)).document = some parsed := by
  have hread := Json.read_document (.list (parsed.map ParsedQuery.toJson))
  have hitems := Json.mapM_saidItems ParsedQuery.ofValue_toJson parsed
  simp [readParsedQueries, hread, said, Value.items?, hitems]

/-- **Every list of parsed queries is read back from its document**, and no two lists have
the same one. -/
theorem parsed_queries_read_back :
    (∀ parsed : List ParsedQuery,
      readParsedQueries (Json.list (parsed.map ParsedQuery.toJson)).document = some parsed) ∧
    Function.Injective fun parsed : List ParsedQuery =>
      (Json.list (parsed.map ParsedQuery.toJson)).document := by
  refine ⟨readParsedQueries_document, ?_⟩
  intro parsed other h
  have hsome := congrArg readParsedQueries h
  simp only [readParsedQueries_document] at hsome
  exact Option.some.inj hsome

end TagQuery
