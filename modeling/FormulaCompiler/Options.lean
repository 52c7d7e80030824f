import FormulaCompiler.CodeUnit
import FormulaCompiler.Qualification

/-! The options of a compilation, with the defaults that formulas are meant to be compiled with.
-/

namespace FormulaCompiler

/-- Whether constants are folded and intrinsics used, whether warnings are errors, what results are
cast to, and how names are found in formulas.
-/
structure CompileOptions where
  optimize : Bool := true
  warningsAsErrors : Bool := true
  returnType : ReturnType := .double
  matching : NameMatching := .tokens
deriving DecidableEq, Repr

/-- The options as they are shown. -/
def CompileOptions.display (options : CompileOptions) : String :=
  let returnType := match options.returnType with
    | .double => "F64"
    | .single => "F32"
  let matching := match options.matching with
    | .tokens => "Tokens"
    | .substring => "Substring"
  s!"CompileOptions \x7b optimize: {options.optimize}, "
    ++ s!"warnings_as_errors: {options.warningsAsErrors}, "
    ++ s!"return_type: {returnType}, rewrite: {matching} \x7d"

end FormulaCompiler
