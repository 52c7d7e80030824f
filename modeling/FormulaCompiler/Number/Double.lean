import FormulaCompiler.Number.Special

/-! Doubles down to their bits, also where they are no number. No value ever depends on the bits of
what is no number, so `Float` leaves them out; but constants of an expression are told apart by
their bits, and there they count. Computing with doubles gives the values that computing with
`Float` gives.
-/

namespace FormulaCompiler

open Float.Model.UnpackedFloat (packComponents packedNaN unpackExponent unpackMantissa
  unpackExponent_packComponents unpackMantissa_packComponents)

/-- What is no number: a sign, and a payload that is not zero, as it would be an infinity then. -/
structure NotNumber where
  negative : Bool
  payload : BitVec 52
  nonzero : payload ≠ 0
deriving DecidableEq

namespace NotNumber

/-- The bit of a payload that is set by every operation. -/
def quietBit : BitVec 52 := 1 <<< 51

theorem or_quietBit_ne_zero (payload : BitVec 52) : payload ||| quietBit ≠ 0 := by
  intro zero
  have bit := congrArg (·.getLsbD 51) zero
  simp [quietBit] at bit

/-- No number with this sign, and with this payload but for the bit that is always set. -/
def quiet (negative : Bool) (payload : BitVec 52) : NotNumber :=
  ⟨negative, payload ||| quietBit, or_quietBit_ne_zero payload⟩

/-- What comes of an invalid operation on numbers. -/
def invalid : NotNumber :=
  .quiet true 0

/-- What an operation makes of an operand. -/
def passOn (fault : NotNumber) : NotNumber :=
  .quiet fault.negative fault.payload

/-- What comes of an operation whose first operand that is no number is (operand?). -/
def ofOperand (operand? : Option NotNumber) : NotNumber :=
  operand?.elim invalid passOn

/-- What is left in single precision, which has room for the 23 upper bits of a payload. -/
def narrow (fault : NotNumber) : NotNumber :=
  .quiet fault.negative (fault.payload &&& 0xFFFFFE0000000)

/-- The same payload with another sign. -/
def withSign (fault : NotNumber) (negative : Bool) : NotNumber :=
  { fault with negative }

/-- The bits, between sign and payload all set. -/
def toBits (fault : NotNumber) : BitVec 64 :=
  packComponents .binary64 (if fault.negative then .negative else .positive) (-1) fault.payload

theorem unpackMantissa_toBits (fault : NotNumber)
    : @unpackMantissa .binary64 fault.toBits = fault.payload :=
  unpackMantissa_packComponents

theorem unpackExponent_toBits (fault : NotNumber)
    : @unpackExponent .binary64 fault.toBits = -1 :=
  unpackExponent_packComponents

theorem msb_toBits (fault : NotNumber) : fault.toBits.msb = fault.negative := by
  simp only [toBits, packComponents, BitVec.msb_append]
  cases fault.negative <;> rfl

theorem toBits_inj {fault other : NotNumber} : fault.toBits = other.toBits ↔ fault = other := by
  refine ⟨fun sameBits => ?_, congrArg toBits⟩
  have sign := congrArg BitVec.msb sameBits
  have payload := congrArg (@unpackMantissa .binary64) sameBits
  rw [msb_toBits, msb_toBits] at sign
  rw [unpackMantissa_toBits, unpackMantissa_toBits] at payload
  cases fault
  cases other
  cases sign
  cases payload
  rfl

end NotNumber

/-- A double: a number, which may be infinite, or no number with bits of its own. -/
inductive Double where
  | number (value : Float) (isNumber : value.isNaN = false)
  | nan (fault : NotNumber)
deriving DecidableEq

namespace Double

/-- The double with this value. Where it is no number, the bits are those of (fault). -/
def ofResult (value : Float) (fault : NotNumber) : Double :=
  if isNumber : value.isNaN = false then .number value isNumber else .nan fault

/-- The double that stands for no number, with a clear sign bit. -/
def noNumber : Double :=
  .nan (.quiet false 0)

/-- The double with this value, with a clear sign bit where it is no number. -/
def ofFloat (value : Float) : Double :=
  .ofResult value (.quiet false 0)

/-- The value of a double, which leaves out the bits of what is no number. -/
def toFloat : Double → Float
  | .number value _ => value
  | .nan _ => notANumber

/-- What a double is that is no number. -/
def nan? : Double → Option NotNumber
  | .number _ _ => none
  | .nan fault => some fault

/-- Whether a double is no number. -/
def isNaN (x : Double) : Bool :=
  x.nan?.isSome

/-- The bits of a double. -/
def toBits : Double → UInt64
  | .number value _ => value.toBits
  | .nan fault => .ofBitVec fault.toBits

/-- Computes with one operand. A result that is no number is passed on from an operand that is none;
where the operand is a number, it comes of an invalid operation.
-/
def lift1 (operation : Float → Float) (x : Double) : Double :=
  .ofResult (operation x.toFloat) (.ofOperand x.nan?)

/-- Computes with two operands. A result that is no number is passed on from the first operand that
is none; where both operands are numbers, it comes of an invalid operation.
-/
def lift2 (operation : Float → Float → Float) (x y : Double) : Double :=
  .ofResult (operation x.toFloat y.toFloat) (.ofOperand (x.nan?.or y.nan?))

instance : Add Double := ⟨lift2 (· + ·)⟩

instance : Sub Double := ⟨lift2 (· - ·)⟩

instance : Mul Double := ⟨lift2 (· * ·)⟩

instance : Div Double := ⟨lift2 (· / ·)⟩

/-- Turns the sign over, also of what is no number, and leaves all other bits. -/
def neg (x : Double) : Double :=
  .ofResult (-x.toFloat) (x.nan?.elim .invalid fun fault => fault.withSign !fault.negative)

instance : Neg Double := ⟨neg⟩

/-- No number has the bits of a double that is none. -/
theorem toBits_number_ne_nan (value : Float) (isNumber : value.isNaN = false) (fault : NotNumber)
    : (number value isNumber).toBits ≠ (nan fault).toBits := by
  intro sameBits
  have bits : value.toModel.toBits.toBitVec = fault.toBits := congrArg UInt64.toBitVec sameBits
  -- Of all bits that are no number, `Float` only has those of its own one.
  have canonical : value.toModel.toBits.toBitVec = packedNaN .binary64 := by
    refine value.toModel.valid.eq_packedNaN ?_ ?_
    · rw [bits]
      exact fault.unpackExponent_toBits
    · rw [bits, NotNumber.unpackMantissa_toBits]
      exact fault.nonzero
  have isNaN : notANumber.isNaN = true := by decide
  have same := canonical.trans (toBits_of_isNaN isNaN).symm
  cases eq_of_toBits (congrArg UInt64.ofBitVec same)
  exact Bool.false_ne_true (isNumber.symm.trans isNaN)

theorem toBits_inj {x y : Double} : x.toBits = y.toBits ↔ x = y := by
  refine ⟨fun sameBits => ?_, congrArg toBits⟩
  cases x with
  | number value isNumber =>
    cases y with
    | number other _ => cases eq_of_toBits sameBits; rfl
    | nan fault => exact absurd sameBits (toBits_number_ne_nan value isNumber fault)
  | nan fault =>
    cases y with
    | number other isNumber =>
      exact absurd sameBits.symm (toBits_number_ne_nan other isNumber fault)
    | nan other =>
      exact congrArg Double.nan (NotNumber.toBits_inj.mp (congrArg UInt64.toBitVec sameBits))

@[simp] theorem toFloat_ofResult (value : Float) (fault : NotNumber)
    : (ofResult value fault).toFloat = value := by
  unfold ofResult
  split
  case isTrue => rfl
  case isFalse isNaN => exact (eq_notANumber (by simpa using isNaN)).symm

@[simp] theorem toFloat_ofFloat (value : Float) : (ofFloat value).toFloat = value :=
  toFloat_ofResult _ _

@[simp] theorem toFloat_lift1 (operation : Float → Float) (x : Double)
    : (lift1 operation x).toFloat = operation x.toFloat :=
  toFloat_ofResult _ _

@[simp] theorem toFloat_lift2 (operation : Float → Float → Float) (x y : Double)
    : (lift2 operation x y).toFloat = operation x.toFloat y.toFloat :=
  toFloat_ofResult _ _

@[simp] theorem toFloat_neg (x : Double) : (-x).toFloat = -x.toFloat :=
  toFloat_ofResult _ _

end Double

end FormulaCompiler
