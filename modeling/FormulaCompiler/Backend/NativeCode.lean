import FormulaCompiler.Analysis
import FormulaCompiler.Memory

/-! Straight-line code for expressions. The code works on a stack of doubles; it reaches the library
through symbols, apart from the functions that have an instruction of their own.
-/

namespace FormulaCompiler

/-- A library function that code calls, and how many arguments it was declared with. -/
structure Import where
  symbol : String
  count : Nat
deriving DecidableEq, Repr

/-- One instruction. Operands are taken from the top of the stack, where the last one lies, and the
result is put there. A call names its function by the place among the imports.
-/
inductive Instruction where
  | constant (value : Double)
  | parameter
  | negate
  | add
  | subtract
  | multiply
  | divide
  | intrinsic (function : Intrinsic)
  | call (place : Nat) (count : Nat)
  | roundToSingle
deriving DecidableEq

/-- A function in the course of being generated, from its first instruction on. -/
structure Routine where
  imports : List Import := []
  instructions : List Instruction := []
deriving DecidableEq

namespace Routine

/-- Appends an instruction. -/
def emit (routine : Routine) (instruction : Instruction) : Routine :=
  { routine with instructions := routine.instructions ++ [instruction] }

/-- Appends a call. Its function is imported unless an earlier call did so, whose declaration is the
one that counts.
-/
def emitCall (routine : Routine) (symbol : String) (count : Nat) : Routine :=
  match routine.imports.findIdx? (·.symbol = symbol) with
  | some place => routine.emit (.call place count)
  | none =>
    { imports := routine.imports ++ [{ symbol, count }]
      instructions := routine.instructions ++ [.call routine.imports.length count] }

/-- Appends an operator. The remainder and the power are calls. -/
def emitOperator (routine : Routine) : Operator → Routine
  | .add => routine.emit .add
  | .subtract => routine.emit .subtract
  | .multiply => routine.emit .multiply
  | .divide => routine.emit .divide
  | .remainder => routine.emitCall Library.remainderSymbol 2
  | .power => routine.emitCall Library.powerSymbol 2

/-- Appends the call of a library function. A member without a symbol is none. -/
def emitExport (routine : Routine) (function : Export) (count : Nat) : Except Problem Routine :=
  match function.symbol? with
  | some symbol => .ok (routine.emitCall symbol count)
  | none => .error (.memberNotFunction function.name)

/-- Appends a library function of one argument: its own instruction if there is one and (intrinsics)
allows it, and else a call.
-/
def emitUnary (routine : Routine) (function : Export) (intrinsics : Bool)
    : Except Problem Routine :=
  match function.intrinsic with
  | some intrinsic =>
    if intrinsics then .ok (routine.emit (.intrinsic intrinsic)) else routine.emitExport function 1
  | none => routine.emitExport function 1

end Routine

/-- Appends the code that puts the value of an expression on the stack. -/
def Expr.generate (intrinsics : Bool) : Expr → Routine → Except Problem Routine
  | .parameter, routine => .ok (routine.emit .parameter)
  | .constant value, routine => .ok (routine.emit (.constant value))
  | .negate arg, routine => do
    let routine ← arg.generate intrinsics routine
    return routine.emit .negate
  | .binary op left right, routine => do
    let routine ← left.generate intrinsics routine
    let routine ← right.generate intrinsics routine
    return routine.emitOperator op
  | .call1 function arg, routine => do
    let routine ← arg.generate intrinsics routine
    routine.emitUnary function intrinsics
  | .call2 function left right, routine => do
    let routine ← left.generate intrinsics routine
    let routine ← right.generate intrinsics routine
    routine.emitExport function 2

/-- Appends the cast of a result. A double needs none. -/
def Routine.emitCast (routine : Routine) : ReturnType → Routine
  | .double => routine
  | .single => routine.emit .roundToSingle

/-- The code of a whole function, which casts its result. -/
def Analysis.routine (analysis : Analysis) (intrinsics : Bool) : Except Problem Routine := do
  let routine ← analysis.expr.generate intrinsics {}
  return routine.emitCast analysis.returnType

/-- The function that an import is linked to, if it takes as many arguments as were declared. -/
def Import.link? (declared : Import) : Option Member :=
  (Library.resolve? declared.symbol).filter (·.arity? = some declared.count)

/-- Runs one instruction, if the stack holds enough and a called import is a function of so many
arguments.
-/
def Instruction.step? (imports : List Import) (x : Double)
    : Instruction → List Double → Option (List Double)
  | .constant value, stack => some (value :: stack)
  | .parameter, stack => some (x :: stack)
  | .negate, arg :: stack => some ((-arg) :: stack)
  | .add, right :: left :: stack => some ((left + right) :: stack)
  | .subtract, right :: left :: stack => some ((left - right) :: stack)
  | .multiply, right :: left :: stack => some ((left * right) :: stack)
  | .divide, right :: left :: stack => some ((left / right) :: stack)
  | .intrinsic function, arg :: stack => some (function.apply arg :: stack)
  | .call place 1, arg :: stack =>
    match imports[place]?.bind Import.link? with
    | some (.unary apply) => some (apply arg :: stack)
    | _ => none
  | .call place 2, right :: left :: stack =>
    match imports[place]?.bind Import.link? with
    | some (.binary apply) => some (apply left right :: stack)
    | _ => none
  | .roundToSingle, arg :: stack => some (ReturnType.single.cast arg :: stack)
  | _, _ => none

/-- Runs code in order, where the parameter is (x). -/
def Instruction.run? (imports : List Import) (x : Double)
    : List Instruction → List Double → Option (List Double)
  | [], stack => some stack
  | instruction :: rest, stack => (instruction.step? imports x stack).bind (run? imports x rest)

/-- The result of code that leaves one value, and no number for any other code. -/
def Routine.call (routine : Routine) (x : Double) : Double :=
  match Instruction.run? routine.imports x routine.instructions [] with
  | some [value] => value
  | _ => .noNumber

/-- A module of generated code. It exports the function of one unit under the symbol of this unit,
and holds the code of this function in its memory.
-/
structure NativeModule where
  symbol : String
  routine : Routine
  code : NativeCode

namespace NativeModule

/-- The names that a module declares, by the ids of their functions: the function of the unit comes
first, and behind it come the functions that its code imports.
-/
def declared (module : NativeModule) : List String :=
  module.symbol :: module.routine.imports.map (·.symbol)

/-- The id of the function that is exported. -/
def exportedId : Nat := 0

/-- The id of the function that is declared under a name. -/
def id? (module : NativeModule) (name : String) : Option Nat :=
  module.declared.findIdx? (· = name)

/-- The code that lies at an address in the memory of a module. -/
def load? (module : NativeModule) (code : NativeCode) : Option Routine :=
  if code = module.code then some module.routine else none

/-- Runs what lies at an address in the memory of a module. -/
def run (module : NativeModule) (code : NativeCode) (x : Double) : Double :=
  ((module.load? code).map (·.call x)).getD .noNumber

end NativeModule

end FormulaCompiler
