/-! Positions in a text count the bytes of its UTF-8 form. A span is a range of such positions,
and reports and tokens carry one to say which part of the text they are about.
-/

namespace FormulaCompiler

/-- The number of bytes that a list of characters takes in UTF-8. -/
def byteLength : List Char → Nat
  | [] => 0
  | c :: rest => c.utf8Size + byteLength rest

@[simp] theorem byteLength_nil : byteLength [] = 0 := rfl

@[simp] theorem byteLength_cons (c : Char) (rest : List Char)
    : byteLength (c :: rest) = c.utf8Size + byteLength rest := rfl

/-- Byte lengths add up over concatenation, by induction over the first text. -/
@[simp] theorem byteLength_append (left right : List Char)
    : byteLength (left ++ right) = byteLength left + byteLength right := by
  induction left with
  | nil => simp
  | cons c rest ih => simp [ih, Nat.add_assoc]

/-- A range of byte positions: (start) is its first position and (stop) the one behind its last. -/
structure Span where
  start : Nat
  stop : Nat
deriving DecidableEq, Repr

/-- The span that lies (length) bytes behind (start). -/
def Span.ofLength (start length : Nat) : Span :=
  ⟨start, start + length⟩

/-- From the start of one span to the stop of another. -/
def Span.through (first last : Span) : Span :=
  ⟨first.start, last.stop⟩

/-- The same range in a text that has (offset) more bytes in front. -/
def Span.shift (span : Span) (offset : Nat) : Span :=
  ⟨span.start + offset, span.stop + offset⟩

end FormulaCompiler
