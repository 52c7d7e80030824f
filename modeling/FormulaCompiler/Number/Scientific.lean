import FormulaCompiler.Number.FloatText

/-! Scientific notation with a fixed number of significant digits. The exact value is rounded, and
half way it goes to the even neighbour.
-/

namespace FormulaCompiler

/-- The quotient rounded to the nearest whole number, half way to the even one. -/
def roundedQuotient (dividend divisor : Nat) : Nat :=
  let quotient := dividend / divisor
  let twice := 2 * (dividend % divisor)
  if divisor < twice ∨ (twice = divisor ∧ quotient % 2 = 1) then quotient + 1 else quotient

/-- The largest power of ten that is at most the magnitude, looked for from (power) down. -/
def Dyadic.leadingPower (magnitude : Dyadic) (power : Int) : (steps : Nat) → Int
  | 0 => power
  | steps + 1 =>
    let (value, unit) := magnitude.decimalRatio power
    if unit ≤ value then power else magnitude.leadingPower (power - 1) steps

/-- A positive magnitude rounded to (count) significant digits. -/
def Dyadic.significant (magnitude : Dyadic) (count : Nat) : DecimalDigits :=
  let leading := magnitude.leadingPower magnitude.decimalBound 3
  let power := leading - (count - 1 : Nat)
  let (value, unit) := magnitude.decimalRatio power
  let digits := roundedQuotient value unit
  if digits = Nat.pow 10 count then ⟨Nat.pow 10 (count - 1), power + 1⟩ else ⟨digits, power⟩

/-- The digits with a point behind the first one, and the power of ten of that digit. -/
def DecimalDigits.scientific (decimal : DecimalDigits) : List Char :=
  let digits := Nat.toDigits 10 decimal.digits
  let exponent := decimal.power + (digits.length - 1 : Nat)
  digits.take 1 ++ '.' :: digits.drop 1 ++ 'e' :: (signText (exponent < 0) ++
    Nat.toDigits 10 exponent.natAbs)

/-- A finite double with (count) significant digits. There is no such text for other doubles. -/
def scientificText? (count : Nat) (value : Float) : Option String :=
  match decodeFloat value with
  | .finite negative magnitude =>
    let digits :=
      if magnitude.significand = 0 then
        '0' :: '.' :: (List.replicate (count - 1) '0' ++ ['e', '0'])
      else
        (magnitude.significant count).scientific
    some (String.ofList (signText negative ++ digits))
  | _ => none

end FormulaCompiler
