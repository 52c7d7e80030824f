import FormulaCompiler.Number.Dyadic
import FormulaCompiler.Number.Special

/-! The remainder of a division that rounds its quotient toward zero. The result is exact: it has
the sign of the dividend and is smaller than the divisor.
-/

namespace FormulaCompiler

/-- The remainder of (dividend) by (divisor). It is no number where the dividend is infinite or the
divisor zero, and the dividend itself where only the divisor is infinite.
-/
def truncatedRemainder (dividend divisor : Float) : Float :=
  match decodeFloat dividend, decodeFloat divisor with
  | .finite negative left, .finite _ right =>
    if right.significand = 0 then notANumber
    else
      let exponent := min left.exponent right.exponent
      encodeFloat negative ⟨left.alignedTo exponent % right.alignedTo exponent, exponent⟩
  | .finite _ _, .infinite _ => dividend
  | _, _ => notANumber

end FormulaCompiler
