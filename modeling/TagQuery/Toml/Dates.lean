import TagQuery.Toml.Moment

/-!
Tables that stand for dates: those whose first key is a certain one. Its value has
to be a string with the date.
-/

namespace TagQuery.Toml

def dateKey : String := "$__toml_private_datetime"

def Entries.isDate (es : Entries) : Bool := es.head?.any fun e => e.1.name = dateKey

/-- What may be wrong with a table that stands for a date: it holds something else
than a string, or all else. -/
inductive DateFault where
  | notString (key : Key) (value : Node)
  | malformed

/-- Checks the value under the first key of a table that stands for a date. -/
def checkDate (key : Key) : Node → Except DateFault Unit
  | .scalar (.string s) _ => if isMoment s.toList then .ok () else .error .malformed
  | value => .error (.notString key value)

mutual

/-- Checks all tables within a value that stand for dates. If `alone` holds they may
have no other key; otherwise their other keys do not count. -/
def Node.checkDates (alone : Bool) : Node → Except DateFault Unit
  | .scalar _ _ => .ok ()
  | .array items _ => checkItems alone items
  | .tables blocks => checkBlocks alone blocks
  | .table _ _ [] => .ok ()
  | .table _ _ ((key, value) :: rest) =>
    if key.name = dateKey then do
      checkDate key value
      if alone && !rest.isEmpty then .error .malformed else .ok ()
    else do
      value.checkDates alone
      checkValues alone rest

def checkItems (alone : Bool) : List Node → Except DateFault Unit
  | [] => .ok ()
  | item :: rest => do
    item.checkDates alone
    checkItems alone rest

def checkBlocks (alone : Bool) : List Node → Except DateFault Unit
  | [] => .ok ()
  | block :: older => do
    checkBlocks alone older
    block.checkDates alone

def checkValues (alone : Bool) : List (Key × Node) → Except DateFault Unit
  | [] => .ok ()
  | (_, value) :: rest => do
    value.checkDates alone
    checkValues alone rest

end

end TagQuery.Toml
