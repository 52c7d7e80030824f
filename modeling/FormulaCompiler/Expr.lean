import FormulaCompiler.Library
import FormulaCompiler.Token

/-! Expressions of one variable with all names resolved, their values, and the folding of constant
parts.
-/

namespace FormulaCompiler

/-- An expression tree. A call holds the library member it calls, so it is only meaningful where
that member is a function of as many arguments.
-/
inductive Expr where
  | parameter
  | constant (value : Double)
  | negate (arg : Expr)
  | binary (op : Operator) (left right : Expr)
  | call1 (function : Export) (arg : Expr)
  | call2 (function : Export) (left right : Expr)

/-- What an operator computes. -/
def Operator.apply : Operator → Double → Double → Double
  | .add => (· + ·)
  | .subtract => (· - ·)
  | .multiply => (· * ·)
  | .divide => (· / ·)
  | .remainder => Library.remainder
  | .power => Library.power

namespace Expr

/-- Whether two trees are the same: doubles by their bits, and library members by their names. -/
def sameAs : Expr → Expr → Bool
  | .parameter, .parameter => true
  | .constant left, .constant right => left.toBits = right.toBits
  | .negate arg, .negate arg' => arg.sameAs arg'
  | .binary op left right, .binary op' left' right' =>
    op = op' && left.sameAs left' && right.sameAs right'
  | .call1 function arg, .call1 function' arg' =>
    function.name = function'.name && arg.sameAs arg'
  | .call2 function left right, .call2 function' left' right' =>
    function.name = function'.name && left.sameAs left' && right.sameAs right'
  | _, _ => false

instance : BEq Expr := ⟨sameAs⟩

/-- The value of an expression where the parameter is (x). A call of something that is no function
of so many arguments is not a number.
-/
def eval (x : Double) : Expr → Double
  | .parameter => x
  | .constant value => value
  | .negate arg => -arg.eval x
  | .binary op left right => op.apply (left.eval x) (right.eval x)
  | .call1 function arg =>
    match function.member with
    | .unary apply => apply (arg.eval x)
    | _ => .noNumber
  | .call2 function left right =>
    match function.member with
    | .binary apply => apply (left.eval x) (right.eval x)
    | _ => .noNumber

/-- The value of an expression that is nothing but a constant. -/
def constant? : Expr → Option Double
  | .constant value => some value
  | _ => none

/-- Whether the value of an expression can depend on the parameter. -/
def usesParameter : Expr → Bool
  | .parameter => true
  | .constant _ => false
  | .negate arg | .call1 _ arg => arg.usesParameter
  | .binary _ left right | .call2 _ left right => left.usesParameter || right.usesParameter

/-- Whether an expression is a zero with any number of signs before it. -/
def isLiteralZero : Expr → Bool
  | .constant value => value.toFloat == 0.0
  | .negate arg => arg.isLiteralZero
  | _ => false

/-- Computes every part that does not depend on the parameter, from the inside out. -/
def fold : Expr → Expr
  | .parameter => .parameter
  | .constant value => .constant value
  | .negate arg =>
    match arg.fold with
    | .constant value => .constant (-value)
    | folded => .negate folded
  | .binary op left right =>
    match left.fold, right.fold with
    | .constant l, .constant r => .constant (op.apply l r)
    | foldedLeft, foldedRight => .binary op foldedLeft foldedRight
  | .call1 function arg =>
    match function.member, arg.fold with
    | .unary apply, .constant value => .constant (apply value)
    | _, folded => .call1 function folded
  | .call2 function left right =>
    match function.member, left.fold, right.fold with
    | .binary apply, .constant l, .constant r => .constant (apply l r)
    | _, foldedLeft, foldedRight => .call2 function foldedLeft foldedRight

end Expr

end FormulaCompiler
