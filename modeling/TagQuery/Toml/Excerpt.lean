import TagQuery.Toml.Node

/-!
A fault shown in its document: the line with its number, and carets under the
faulty stretch as far as it lies on that line. The stretch is measured in bytes,
the place where it starts in characters.
-/

namespace TagQuery.Toml

def utf8Size (cs : List Char) : Nat := cs.foldl (fun n c => n + c.utf8Size) 0

/-- The characters of the line that `before` ends in, last first. -/
def lineBefore (before : List Char) : List Char := before.reverse.takeWhile (· ≠ '\n')

def excerpt (document : List Char) (span : Span) : String :=
  let before := document.take (document.length - span.start.length)
  let column := (lineBefore before).length
  let number := toString (before.count '\n' + 1)
  let line := (lineBefore before).reverse ++ span.start.takeWhile (· ≠ '\n')
  let stretch := span.start.take (span.start.length - span.stop.length)
  let carets := max 1 (min (utf8Size stretch) (utf8Size line - column))
  let gutter := List.replicate (number.length + 1) ' ' ++ ['|']
  "TOML parse error at line " ++ number ++ ", column " ++ toString (column + 1) ++ "\n"
    ++ String.ofList (gutter ++ ['\n']) ++ number ++ " | " ++ String.ofList (line ++ ['\n'])
    ++ String.ofList (gutter ++ List.replicate (column + 1) ' ' ++ List.replicate carets '^' ++ ['\n'])

end TagQuery.Toml
