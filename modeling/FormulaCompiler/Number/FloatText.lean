import FormulaCompiler.Number.Dyadic

/-! The text of a double: the fewest decimal digits that read back as the same double, the nearest
such digits to its exact value, and never an exponent.
-/

namespace FormulaCompiler

/-- The number (digits · 10 ^ power). -/
structure DecimalDigits where
  digits : Nat
  power : Int
deriving DecidableEq, Repr

/-- The numbers that read back as one double: from (lowest) to (highest), counted like (value) in
multiples of (2 ^ exponent), with both ends exactly where (closed).
-/
structure ReadBack where
  value : Nat
  lowest : Nat
  highest : Nat
  exponent : Int
  closed : Bool

/-- The neighbourhood of a positive magnitude: half way to the next double on each side. The double
below a power of two is only half as far away.
-/
def Dyadic.readBack (magnitude : Dyadic) : ReadBack where
  value := 4 * magnitude.significand
  lowest := 4 * magnitude.significand - (if magnitude.significand = Nat.pow 2 52 then 1 else 2)
  highest := 4 * magnitude.significand + 2
  exponent := magnitude.exponent - 2
  closed := magnitude.significand % 2 = 0

/-- The digits of a multiple of (10 ^ power) that reads back, if one of the two next to the value
does. Of two the nearer is taken, and half way the larger.
-/
def ReadBack.onGrid? (numbers : ReadBack) (power : Int) : Option Nat :=
  let (value, unit) := (Dyadic.mk numbers.value numbers.exponent).decimalRatio power
  let lowest := ((Dyadic.mk numbers.lowest numbers.exponent).decimalRatio power).1
  let highest := ((Dyadic.mk numbers.highest numbers.exponent).decimalRatio power).1
  let below := value / unit
  let above := below + 1
  let takesBelow := if numbers.closed then lowest ≤ below * unit else lowest < below * unit
  let takesAbove := if numbers.closed then above * unit ≤ highest else above * unit < highest
  if takesAbove ∧ (¬takesBelow ∨ above * unit - value ≤ value - below * unit) then some above
  else if takesBelow ∧ below ≠ 0 then some below
  else none

/-- The digits on the coarsest grid that has any, from (10 ^ power) down. Seventeen digits always
read back, so (steps) bounds the search without ending it.
-/
def ReadBack.search (numbers : ReadBack) (power : Int) : (steps : Nat) → DecimalDigits
  | 0 => ⟨0, 0⟩
  | steps + 1 =>
    match numbers.onGrid? power with
    | some digits => ⟨digits, power⟩
    | none => numbers.search (power - 1) steps

/-- The shortest digits of a positive magnitude. -/
def Dyadic.shortest (magnitude : Dyadic) : DecimalDigits :=
  magnitude.readBack.search magnitude.decimalBound 24

/-- Positional notation, with a zero before a point that no digit precedes. -/
def DecimalDigits.positional (decimal : DecimalDigits) : List Char :=
  let digits := Nat.toDigits 10 decimal.digits
  if 0 ≤ decimal.power then
    digits ++ List.replicate decimal.power.toNat '0'
  else
    let places := (-decimal.power).toNat
    if places < digits.length then
      digits.take (digits.length - places) ++ '.' :: digits.drop (digits.length - places)
    else
      '0' :: '.' :: (List.replicate (places - digits.length) '0' ++ digits)

/-- The sign that goes before a magnitude. -/
def signText (negative : Bool) : List Char :=
  if negative then ['-'] else []

/-- The text of a double. -/
def floatText (value : Float) : String :=
  match decodeFloat value with
  | .nan => "NaN"
  | .infinite negative => String.ofList (signText negative ++ "inf".toList)
  | .finite negative magnitude =>
    String.ofList (signText negative ++
      if magnitude.significand = 0 then ['0'] else magnitude.shortest.positional)

end FormulaCompiler
