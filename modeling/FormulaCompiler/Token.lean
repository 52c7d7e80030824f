import FormulaCompiler.Text.Span
import FormulaCompiler.Number.FloatText

/-! The tokens of the formula language, and the texts that reports quote them by.
-/

namespace FormulaCompiler

/-- The operators that are written between two operands. -/
inductive Operator where
  | add
  | subtract
  | multiply
  | divide
  | remainder
  | power
deriving DecidableEq, Repr

/-- The character that an operator is written with. -/
def Operator.symbol : Operator → Char
  | .add => '+'
  | .subtract => '-'
  | .multiply => '*'
  | .divide => '/'
  | .remainder => '%'
  | .power => '^'

/-- The operator that a character writes. -/
def Operator.ofSymbol? : Char → Option Operator
  | '+' => some .add
  | '-' => some .subtract
  | '*' => some .multiply
  | '/' => some .divide
  | '%' => some .remainder
  | '^' => some .power
  | _ => none

/-- The smallest meaningful parts of a formula. A name may be a path. -/
inductive Token where
  | number (value : Float)
  | name (path : String)
  | operator (op : Operator)
  | openParen
  | closeParen
  | comma
deriving DecidableEq

/-- The text that a report quotes a token by. -/
def Token.display : Token → String
  | .number value => s!"number {floatText value}"
  | .name path => s!"name '{path}'"
  | .operator op => s!"'{op.symbol}'"
  | .openParen => "'('"
  | .closeParen => "')'"
  | .comma => "','"

/-- The token that one character writes by itself. -/
def Token.ofSymbol? : Char → Option Token
  | '(' => some .openParen
  | ')' => some .closeParen
  | ',' => some .comma
  | c => (Operator.ofSymbol? c).map .operator

/-- Something together with the part of the text that it was read from. -/
structure Spanned (α : Type) where
  content : α
  span : Span
deriving DecidableEq

end FormulaCompiler
