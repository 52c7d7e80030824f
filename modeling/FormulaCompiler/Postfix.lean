import FormulaCompiler.Token

/-! Formulas in postfix order: operands first, then what is applied to them. Neither parentheses
nor strengths of binding are left to be known.
-/

namespace FormulaCompiler

/-- One step of a formula in postfix order. A call is applied to its (count) latest operands. -/
inductive PostfixNode where
  | number (value : Float)
  | name (path : String)
  | negate
  | operator (op : Operator)
  | call (path : String) (count : Nat)
deriving DecidableEq

/-- A step with its place in the text. A call reaches from its name to its closing parenthesis. -/
abbrev PostfixItem := Spanned PostfixNode

end FormulaCompiler
