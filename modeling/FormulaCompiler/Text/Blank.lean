/-! Blank characters are those with the Unicode property White_Space, and trimming a text drops
them from both of its ends.
-/

namespace FormulaCompiler

/-- Whether a character has the Unicode property White_Space. -/
def isBlank (c : Char) : Bool :=
  let code := c.toNat
  (0x09 ≤ code && code ≤ 0x0D) || code == 0x20 || code == 0x85 || code == 0xA0 || code == 0x1680
    || (0x2000 ≤ code && code ≤ 0x200A) || code == 0x2028 || code == 0x2029 || code == 0x202F
    || code == 0x205F || code == 0x3000

/-- The text without the blanks at its ends. -/
def trimBlanks (text : String) : String :=
  let behindStart := text.toList.dropWhile isBlank
  String.ofList (behindStart.reverse.dropWhile isBlank).reverse

end FormulaCompiler
