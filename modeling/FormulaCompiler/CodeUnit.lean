import FormulaCompiler.Library

/-! A code unit wraps one expression in a function of one parameter, inside a type whose name tells
it from all other units.
-/

namespace FormulaCompiler

/-- The type that the value of a function is cast to. -/
inductive ReturnType where
  | double
  | single
deriving DecidableEq, Repr

/-- The name of a type in a code unit. -/
def ReturnType.text : ReturnType → String
  | .double => "f64"
  | .single => "f32"

/-- Casts a value. Single precision rounds it, and the rounded value is a double again. -/
def ReturnType.cast : ReturnType → Double → Double
  | .double, value => value
  | .single, value => .ofResult value.toFloat.toFloat32.toFloat (value.nan?.elim .invalid .narrow)

/-- The function of a code unit, which returns the value of its body after a cast. -/
structure FunctionDecl where
  name : String := "execute"
  parameter : String := "x"
  returnType : ReturnType
  body : String
deriving DecidableEq, Repr

/-- A unit that can be compiled by itself. -/
structure CodeUnit where
  space : String := "formula_evaluator"
  imports : List String := [Library.moduleName]
  typeName : String
  function : FunctionDecl
deriving DecidableEq, Repr

namespace CodeUnit

/-- The unit with this number, which wraps an expression. The expression is not checked. -/
def build (number : Nat) (expression : String) (returnType : ReturnType) : CodeUnit :=
  { typeName := s!"Evaluator{number}"
    function := { returnType, body := expression } }

/-- The symbol that the function of a unit is found by. -/
def symbol (unit : CodeUnit) : String :=
  s!"{unit.space}.{unit.typeName}.{unit.function.name}"

/-- The expression that the function of a unit returns. -/
def body (unit : CodeUnit) : String :=
  unit.function.body

/-- The lines that a unit is written in. -/
def lines (unit : CodeUnit) : List String :=
  let function := unit.function
  [s!"mod {unit.space} \x7b"]
    ++ unit.imports.map (fun name => s!"    use {name};")
    ++ [
      "",
      s!"    pub struct {unit.typeName};",
      "",
      s!"    impl {unit.typeName} \x7b",
      s!"        pub fn {function.name}({function.parameter}: f64) -> f64 \x7b",
      s!"            return ({function.body}) as {function.returnType.text};",
      "        \x7d",
      "    \x7d",
      "\x7d"
    ]

/-- The text of a unit, whose last line is not ended. -/
def render (unit : CodeUnit) : String :=
  "\n".intercalate unit.lines

end CodeUnit

end FormulaCompiler
