/-! The lines of a byte stream. A line feed ends a line, a carriage return in front of it belongs
to the ending, and what stands behind the last line feed is a line unless it is empty.
-/

namespace FormulaCompiler

/-- A line without the carriage return that may go before its line feed. -/
def dropCarriageReturn (line : List UInt8) : List UInt8 :=
  if line.getLast? = some 0x0D then line.dropLast else line

/-- The lines of (bytes), where (current) holds the bytes of the line begun, backwards. -/
def splitLinesAfter (current : List UInt8) : List UInt8 → List (List UInt8)
  | [] => if current.isEmpty then [] else [current.reverse]
  | byte :: rest =>
    if byte = 0x0A then dropCarriageReturn current.reverse :: splitLinesAfter [] rest
    else splitLinesAfter (byte :: current) rest

/-- The lines of a byte stream, in order. -/
def splitLines (bytes : List UInt8) : List (List UInt8) :=
  splitLinesAfter [] bytes

/-- The text that a list of bytes encodes in UTF-8, if it encodes one. -/
def decodeUtf8? (bytes : List UInt8) : Option String :=
  String.fromUTF8? ⟨bytes.toArray⟩

end FormulaCompiler
