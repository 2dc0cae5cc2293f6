import TagQuery.Toml.Numbers

/-!
Dates and times that are given as strings. The rules are a little wider than
those for dates and times that a document holds as such: an hour may be the
twenty-fourth, and an offset is any count of minutes up to a day.
-/

namespace TagQuery.Toml

def isOffset : Chars → Bool
  | [] => true
  | ['Z'] => true
  | ['z'] => true
  | sign :: rest =>
    let minutes? := do
      let (hours, rest) ← readField 2 0 99 rest
      let (minutes, rest) ← readField 2 0 99 (← readChar ':' rest)
      if rest.isEmpty then some (60 * hours + minutes) else none
    (sign = '+' || sign = '-') && minutes?.any fun n => n ≤ 1440

/-- A date, a time, or both; only where both stand may an offset follow. -/
def isMoment (cs : Chars) : Bool :=
  if cs[2]? = some ':' then skipTime 24 cs = some []
  else match skipDate cs with
    | none => false
    | some [] => true
    | some (c :: rest) =>
      (c = 'T' || c = 't' || c = ' ') && (skipTime 24 rest).any isOffset

end TagQuery.Toml
