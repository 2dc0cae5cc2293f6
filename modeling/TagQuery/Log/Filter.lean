import TagQuery.Log.Directive
import TagQuery.Log.Event

/-!
Which events are logged. A filter is a list of directives between commas, each a
level for the events whose source starts with its source and that have its field.
Of the directives that fit an event the most precise one decides.
-/

namespace TagQuery.Log

abbrev Filter := List Directive

/-- A filter as it is written. One with a malformed directive lets nothing pass,
and one without directives lets errors pass. -/
def Filter.ofText (text : String) : Filter :=
  let written := (text.toList.splitOn ',').filter fun cs => !cs.isEmpty
  if written.isEmpty then [⟨[], none, 1⟩]
  else match written.mapM Directive.ofText? with
    | none => []
    | some directives => directives.filterMap id

def Directive.fits (d : Directive) (e : Event) : Bool :=
  d.source.isPrefixOf e.source.toList && d.field?.all e.fields.contains

/-- Is a directive as precise as another, or more? A longer source counts more
than a field. -/
def Directive.isAsPrecise (d other : Directive) : Bool :=
  other.source.length < d.source.length
    || (other.source.length = d.source.length && (other.field?.isNone || d.field?.isSome))

/-- The directive that decides about an event; of two that are equally precise, the
one written last. -/
def Filter.deciding? (filter : Filter) (e : Event) : Option Directive :=
  (filter.filter fun d => d.fits e).foldl (fun best d =>
    match best with
    | none => some d
    | some b => if d.isAsPrecise b then some d else some b) none

def Filter.passes (filter : Filter) (e : Event) : Bool :=
  (filter.deciding? e).any fun d => e.level.rank ≤ d.rank

end TagQuery.Log
