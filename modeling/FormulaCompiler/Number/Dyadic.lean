/-! Floating point values taken apart. A finite double is a sign and a whole number of powers of
two, so questions about its exact value become questions about natural numbers.
-/

namespace FormulaCompiler

/-- The exact number (significand · 2 ^ exponent). -/
structure Dyadic where
  significand : Nat
  exponent : Int
deriving DecidableEq, Repr

/-- What a double stands for. -/
inductive Decoded where
  | nan
  | infinite (negative : Bool)
  | finite (negative : Bool) (magnitude : Dyadic)
deriving DecidableEq, Repr

/-- Takes a double apart into sign, exponent and significand. Below the least normal exponent the
significand has no hidden bit.
-/
def decodeFloat (value : Float) : Decoded :=
  let bits := value.toBits.toNat
  let negative := bits / Nat.pow 2 63 == 1
  let biased : Nat := bits / Nat.pow 2 52 % Nat.pow 2 11
  let fraction : Nat := bits % Nat.pow 2 52
  if biased = 2047 then
    if fraction = 0 then .infinite negative else .nan
  else if biased = 0 then .finite negative ⟨fraction, -1074⟩
  else .finite negative ⟨Nat.pow 2 52 + fraction, (biased : Int) - 1075⟩

/-- The double with this sign and magnitude, where the magnitude is that of a double: its
significand fits in 53 bits and its exponent is at least -1074.
-/
def encodeFloat (negative : Bool) (magnitude : Dyadic) : Float :=
  let room := (magnitude.exponent + 1074).toNat
  let shift := min (52 - magnitude.significand.log2) room
  let bits := if magnitude.significand = 0 then 0
    else (room - shift) * Nat.pow 2 52 + magnitude.significand * Nat.pow 2 shift
  Float.ofBits (UInt64.ofNat ((if negative then Nat.pow 2 63 else 0) + bits))

/-- The magnitude as a multiple of (2 ^ exponent), which is no larger than its own exponent. -/
def Dyadic.alignedTo (magnitude : Dyadic) (exponent : Int) : Nat :=
  magnitude.significand * Nat.pow 2 (magnitude.exponent - exponent).toNat

/-- The magnitude as a multiple of (10 ^ power), written as a fraction. Its denominator depends on
the exponent of the magnitude only.
-/
def Dyadic.decimalRatio (magnitude : Dyadic) (power : Int) : Nat × Nat :=
  (magnitude.significand * Nat.pow 2 magnitude.exponent.toNat * Nat.pow 10 (-power).toNat,
    Nat.pow 2 (-magnitude.exponent).toNat * Nat.pow 10 power.toNat)

/-- A power of ten that the magnitude stays below: its binary length times an upper bound for the
logarithm of two, rounded up.
-/
def Dyadic.decimalBound (magnitude : Dyadic) : Int :=
  (magnitude.significand.log2 + 1 + magnitude.exponent) * 30103 / 100000 + 1

end FormulaCompiler
