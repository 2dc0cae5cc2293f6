/-!
Tag categories and their shorthands.
-/

namespace TagQuery

/-- The category that a shorthand stands for; every other name is its own. -/
def canonicalName (name : String) : String :=
  match name with
  | "a" => "artist"
  | "c" | "char" => "character"
  | "f" => "female"
  | "g" | "creator" | "circle" => "group"
  | "l" | "lang" => "language"
  | "m" => "male"
  | "p" | "series" => "parody"
  | "r" => "reclass"
  | other => other

end TagQuery
