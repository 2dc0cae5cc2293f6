import TagQuery.Like
import TagQuery.Query.Component

/-!
SQL `LIKE` patterns for a term, from the strict one that matches the text alone
to the lenient ones for titles and for tags of several words.
-/

namespace TagQuery.Term

def escapedRaw (t : Term) : String := Like.escape t.raw

def likeFragments (t : Term) : List String := t.pieces.map Like.escape

/-- Matches the text of the term and nothing else. -/
def likePattern (t : Term) : String := String.join t.likeFragments

/-- Matches every title that contains the term. -/
def titlePattern (t : Term) : String := "%" ++ t.likePattern ++ "%"

/-- Match tags that start with the term and tags that have it as a word. -/
def tagPatterns (t : Term) : List String :=
  [t.escapedRaw ++ "%", " " ++ t.escapedRaw ++ " ", " " ++ t.escapedRaw, t.escapedRaw ++ " "]

end TagQuery.Term
