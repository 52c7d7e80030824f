import FormulaCompiler.Backend.NativeCode

/-! What a backend makes of a code unit, and the entry points that lead into it.
-/

namespace FormulaCompiler

/-- A way into an artifact: the address of code to run, or the index of a function to evaluate. -/
inductive EntryPoint where
  | native (code : NativeCode)
  | interpreted (index : Nat)
deriving DecidableEq

/-- Whether an entry point leads to code. -/
def EntryPoint.isNative : EntryPoint → Bool
  | .native _ => true
  | .interpreted _ => false

/-- A compiled unit: code, a tree that is evaluated at each call, or something without a way in. -/
inductive Artifact where
  | native (module : NativeModule)
  | tree (symbol : String) (expr : Expr) (returnType : ReturnType)
  | closed

namespace Artifact

/-- The code that an artifact holds. -/
def code? : Artifact → Option NativeCode
  | .native module => some module.code
  | _ => none

/-- The entry point with this symbol. A module only gives away the function that it exports, not
those that it imports.
-/
def entryPoint? : Artifact → String → Option EntryPoint
  | .native module, symbol =>
    match module.id? symbol with
    | some id => if id = NativeModule.exportedId then some (.native module.code) else none
    | none => none
  | .tree own _ _, symbol => if symbol = own then some (.interpreted 0) else none
  | .closed, _ => none

/-- Runs the code at an address, which has to be in the memory of the artifact. -/
def run : Artifact → NativeCode → Double → Double
  | .native module, code, x => module.run code x
  | _, _, _ => .noNumber

/-- Runs an entry point of this artifact. Code of another artifact is never run, and a tree does not
look at the index: the result is no number where the entry point leads elsewhere.
-/
def call : Artifact → EntryPoint → Double → Double
  | .native module, .native code, x => if code = module.code then module.run code x else .noNumber
  | .tree _ expr returnType, .interpreted _, x => returnType.cast (expr.eval x)
  | _, _, _ => .noNumber

end Artifact

end FormulaCompiler
