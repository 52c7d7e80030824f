/-! The values that stand for no finite number, by the divisions that give them. `Float` has only
one value that is no number.
-/

namespace FormulaCompiler

/-- The value that is not a number. -/
def notANumber : Float := 0.0 / 0.0

/-- The value beyond all numbers. -/
def infinity : Float := 1.0 / 0.0

theorem eq_of_toBits {value other : Float} (sameBits : value.toBits = other.toBits)
    : value = other := by
  rcases value with ⟨⟨bits, valid⟩⟩
  rcases other with ⟨⟨bits', valid'⟩⟩
  cases show bits = bits' from sameBits
  rfl

section

open Float.Model (Format)
open Float.Model.UnpackedFloat (unpack unpackExponent unpackMantissa)

variable {bits : BitVec Format.binary64.numBits} (isNaN : (unpack .binary64 bits).isNaN = true)

include isNaN

theorem unpackExponent_of_isNaN : unpackExponent bits = -1#_ := by
  apply Decidable.byContradiction
  intro other
  delta unpack at isNaN
  dsimp only at isNaN
  rw [if_neg other] at isNaN
  by_cases zero : unpackExponent bits = 0#_
  · rw [if_pos zero] at isNaN
    by_cases none : unpackMantissa bits = 0#_
    · rw [dif_pos none] at isNaN
      exact Bool.false_ne_true isNaN
    · rw [dif_neg none] at isNaN
      exact Bool.false_ne_true isNaN
  · rw [if_neg zero] at isNaN
    exact Bool.false_ne_true isNaN

theorem unpackMantissa_of_isNaN : unpackMantissa bits ≠ 0#_ := by
  intro none
  have exponent := unpackExponent_of_isNaN isNaN
  delta unpack at isNaN
  dsimp only at isNaN
  rw [if_pos exponent, if_pos none] at isNaN
  exact Bool.false_ne_true isNaN

end

/-- The bits of what is no number are always the same. -/
theorem toBits_of_isNaN {value : Float} (isNaN : value.isNaN = true)
    : value.toModel.toBits.toBitVec = Float.Model.UnpackedFloat.packedNaN .binary64 :=
  value.toModel.valid.eq_packedNaN (unpackExponent_of_isNaN isNaN) (unpackMantissa_of_isNaN isNaN)

theorem eq_notANumber {value : Float} (isNaN : value.isNaN = true) : value = notANumber := by
  have isNaN' : notANumber.isNaN = true := by decide
  have sameBits := (toBits_of_isNaN isNaN).trans (toBits_of_isNaN isNaN').symm
  exact eq_of_toBits (congrArg UInt64.ofBitVec sameBits)

end FormulaCompiler
