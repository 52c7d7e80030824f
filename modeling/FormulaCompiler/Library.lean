import FormulaCompiler.Number.Double
import FormulaCompiler.Number.Remainder

/-! The library that formulas can use: its constants and functions under the names that formulas
know, and the symbols that generated code calls the functions by.
-/

namespace FormulaCompiler

/-- What a name of the library stands for. -/
inductive Member where
  | constant (value : Double)
  | unary (apply : Double → Double)
  | binary (apply : Double → Double → Double)

/-- How many arguments a function takes. A constant cannot be called. -/
def Member.arity? : Member → Option Nat
  | .constant _ => none
  | .unary _ => some 1
  | .binary _ => some 2

/-- The functions that a machine has an instruction for. -/
inductive Intrinsic where
  | sqrt
  | abs
  | floor
  | ceil
  | trunc
deriving DecidableEq, Repr

/-- A member of the library with its name. -/
structure Export where
  name : String
  member : Member
  intrinsic : Option Intrinsic := none

namespace Library

/-- The name of the module that holds the library. -/
def moduleName : String := "math"

/-- The magnitude of a number. Only the sign bit is cleared, also where (x) is no number. -/
def magnitude (x : Double) : Double :=
  .ofResult x.toFloat.abs (x.nan?.elim .invalid (·.withSign false))

/-- The sign of a number: 1, -1, or 0 for both zeros. It is no number where (x) is none. -/
def sign (x : Double) : Double :=
  if 0.0 < x.toFloat then .ofFloat 1.0
  else if x.toFloat < 0.0 then .ofFloat (-1.0)
  else if x.isNaN then x
  else .ofFloat 0.0

/-- The number without its fraction. -/
def truncate (x : Double) : Double :=
  .lift1 (fun value => if value < 0.0 then value.ceil else value.floor) x

/-- The larger number. Where one is not a number it is the other, and of equal ones the first. -/
def largest (a b : Double) : Double :=
  if a.isNaN || a.toFloat < b.toFloat then b else a

/-- The smaller number. Where one is not a number it is the other, and of equal ones the second. -/
def smallest (a b : Double) : Double :=
  if b.isNaN || a.toFloat < b.toFloat then a else b

/-- A hyperbolic function that works on the magnitude of (x). The sign bit is clear where its value
is no number.
-/
def hyperbolic (function : Float → Float) (x : Double) : Double :=
  .ofResult (function x.toFloat) ((NotNumber.ofOperand x.nan?).withSign false)

/-- The logarithm that is the area hyperbolic cosine of numbers from 2 on. For numbers below -1 its
argument is negative, but rounding can make it zero or positive.
-/
def areaCosineLogarithm (value : Float) : Float :=
  (2.0 * value - 1.0 / (value + (value * value - 1.0).sqrt)).log

/-- The area hyperbolic cosine. It is no number below 1, but for one range of magnitudes the sign of
(x) is not looked at: between -2^26 and -2 it is what the logarithm comes to.
-/
def areaCosine (x : Double) : Double :=
  if -67108864.0 < x.toFloat && x.toFloat ≤ -2.0 then .lift1 areaCosineLogarithm x
  else .lift1 Float.acosh x

/-- The area hyperbolic tangent. It works on the magnitude and gets the sign of (x) last, so where
(x) is a number beyond -1 or 1 the sign bit is the opposite of its sign.
-/
def areaTangent (x : Double) : Double :=
  .ofResult x.toFloat.atanh (x.nan?.elim (.quiet (0.0 < x.toFloat) 0) .passOn)

/-- The remainder of a division that rounds its quotient toward zero. -/
def remainder (dividend divisor : Double) : Double :=
  .lift2 truncatedRemainder dividend divisor

/-- The power of (base) to (exponent). -/
def power (base exponent : Double) : Double :=
  .lift2 Float.pow base exponent

/-- What every symbol of the library begins with. -/
def symbolStem : String := "calcfn_math_"

/-- The symbol of the function behind the remainder operator, which has no name in formulas. -/
def remainderSymbol : String := symbolStem ++ "rem"

/-- The symbol of the function behind the power operator. -/
def powerSymbol : String := symbolStem ++ "pow"

/-- The members of the library in order, apart from π. -/
def exports : List Export :=
  [
    { name := "abs", member := .unary magnitude, intrinsic := some .abs },
    { name := "acos", member := .unary (.lift1 Float.acos) },
    { name := "acosh", member := .unary areaCosine },
    { name := "asin", member := .unary (.lift1 Float.asin) },
    { name := "asinh", member := .unary (.lift1 Float.asinh) },
    { name := "atan", member := .unary (.lift1 Float.atan) },
    { name := "atan2", member := .binary (.lift2 Float.atan2) },
    { name := "atanh", member := .unary areaTangent },
    { name := "cbrt", member := .unary (.lift1 Float.cbrt) },
    { name := "ceil", member := .unary (.lift1 Float.ceil), intrinsic := some .ceil },
    { name := "cos", member := .unary (.lift1 Float.cos) },
    { name := "cosh", member := .unary (hyperbolic Float.cosh) },
    { name := "exp", member := .unary (.lift1 Float.exp) },
    { name := "floor", member := .unary (.lift1 Float.floor), intrinsic := some .floor },
    { name := "log", member := .unary (.lift1 Float.log) },
    { name := "log10", member := .unary (.lift1 Float.log10) },
    { name := "log2", member := .unary (.lift1 Float.log2) },
    { name := "max", member := .binary largest },
    { name := "min", member := .binary smallest },
    { name := "pow", member := .binary power },
    { name := "round", member := .unary (.lift1 Float.round) },
    { name := "sign", member := .unary sign },
    { name := "sin", member := .unary (.lift1 Float.sin) },
    { name := "sinh", member := .unary (hyperbolic Float.sinh) },
    { name := "sqrt", member := .unary (.lift1 Float.sqrt), intrinsic := some .sqrt },
    { name := "tan", member := .unary (.lift1 Float.tan) },
    { name := "tanh", member := .unary (.lift1 Float.tanh) },
    { name := "truncate", member := .unary truncate, intrinsic := some .trunc },
    { name := "E", member := .constant (.ofFloat 2.718281828459045) }
  ]

/-- The name of π. -/
def piName : String := "PI"

/-- The constant π, which is kept apart from the other members. -/
def pi : Export :=
  { name := piName, member := .constant (.ofFloat 3.141592653589793) }

/-- The member with exactly this name. -/
def lookup? (name : String) : Option Export :=
  if name = piName then some pi else exports.find? (·.name = name)

end Library

/-- The symbol that generated code calls a function by. Constants have none. -/
def Export.symbol? (member : Export) : Option String :=
  member.member.arity?.map fun _ => Library.symbolStem ++ member.name

/-- The functions that generated code can call, by their symbols. -/
def Library.linkage : List (String × Member) :=
  exports.filterMap (fun member => member.symbol?.map fun symbol => (symbol, member.member))
    ++ [(remainderSymbol, .binary remainder)]

/-- The symbols that generated code can call, in order. -/
def Library.symbols : List String :=
  linkage.map (·.1)

/-- The function behind a symbol. -/
def Library.resolve? (symbol : String) : Option Member :=
  (linkage.find? (·.1 = symbol)).map (·.2)

/-- What the instruction for an intrinsic computes. -/
def Intrinsic.apply : Intrinsic → Double → Double
  | .sqrt => .lift1 Float.sqrt
  | .abs => Library.magnitude
  | .floor => .lift1 Float.floor
  | .ceil => .lift1 Float.ceil
  | .trunc => Library.truncate

end FormulaCompiler
