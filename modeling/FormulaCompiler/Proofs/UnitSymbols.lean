import Mathlib
import FormulaCompiler.CodeUnit

/-! The symbols of units. They only depend on the numbers of the units, and none of them is a symbol
of the library.
-/

namespace FormulaCompiler.CodeUnit

variable {number : Nat} {expression : String} {returnType : ReturnType}

theorem symbol_build
    : (build number expression returnType).symbol
      = "formula_evaluator" ++ "." ++ ("Evaluator" ++ toString number) ++ "." ++ "execute" :=
  rfl

/-- Units with different numbers have different symbols, whatever they wrap. -/
theorem symbol_build_inj {other : Nat} {wrapped : String} {returned : ReturnType}
    : (build number expression returnType).symbol = (build other wrapped returned).symbol
      ↔ number = other := by
  simp only [symbol_build, String.append_left_inj, String.append_right_inj]
  exact Nat.repr_inj

end FormulaCompiler.CodeUnit
