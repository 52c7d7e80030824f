/-! A scan takes text from the front of its input as far as a rule goes.
-/

namespace FormulaCompiler

/-- What a scan found: the text it took, and whether that text is complete. -/
structure Scan where
  text : List Char
  wellFormed : Bool
deriving DecidableEq, Repr

/-- The same scan of an input that has (front) before it, which is taken too. -/
def Scan.behind (scan : Scan) (front : List Char) : Scan :=
  { scan with text := front ++ scan.text }

/-- Text taken from the front, and then from what is left, is taken from the front together. -/
theorem append_isPrefix_of_drop {front more text : List Char} (taken : front <+: text)
    (next : more <+: text.drop front.length)
    : front ++ more <+: text := by
  obtain ⟨rest, rfl⟩ := taken
  rw [List.drop_left] at next
  exact (List.prefix_append_right_inj _).mpr next

end FormulaCompiler
