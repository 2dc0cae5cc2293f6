/-!
Lines of a byte string. A line ends at each newline byte and at the end of the
bytes; one carriage return may stand at its end and is no part of it, two if a
newline follows. Each line has to be UTF-8 by itself.
-/

namespace TagQuery.Text

def newline : UInt8 := 0x0A

def carriageReturn : UInt8 := 0x0D

/-- A text as its UTF-8 bytes say, if they are UTF-8. -/
def decodeUtf8 (bytes : List UInt8) : Option String := String.fromUTF8? bytes.toByteArray

/-- Drops the carriage return that ends a line, given last byte first. -/
def dropReturn : List UInt8 → List UInt8
  | [] => []
  | b :: line => if b = carriageReturn then line else b :: line

/-- Cuts bytes into lines. The lines already cut and the bytes of the current one
are newest first. -/
def cutOnto (lines : List (List UInt8)) (line : List UInt8) : List UInt8 → List (List UInt8)
  | [] => (if line.isEmpty then lines else (dropReturn line).reverse :: lines).reverse
  | b :: rest =>
    if b = newline then cutOnto ((dropReturn (dropReturn line)).reverse :: lines) [] rest
    else cutOnto lines (b :: line) rest

def cutLines (bytes : List UInt8) : List (List UInt8) := cutOnto [] [] bytes

/-- The lines as texts, or nothing if one of them is not UTF-8. -/
def readLines (bytes : List UInt8) : Option (List String) := (cutLines bytes).mapM decodeUtf8

end TagQuery.Text
