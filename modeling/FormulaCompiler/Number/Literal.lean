import FormulaCompiler.Number.Special
import FormulaCompiler.Text.Scan

/-! Number literals: where a literal ends in a text, and which double a literal stands for.
-/

namespace FormulaCompiler

/-- Whether a literal begins with the character (c), which (rest) follows. -/
def startsNumber (c : Char) (rest : List Char) : Bool :=
  c.isDigit || (c = '.' && (rest.head?.map Char.isDigit).getD false)

/-- Whether a character marks the exponent of a literal. -/
def isExponentMark (c : Char) : Bool :=
  c = 'e' || c = 'E'

/-- The fraction at the start of a text: a point and the digits behind it. -/
def scanFraction : List Char → List Char
  | '.' :: rest => '.' :: rest.takeWhile Char.isDigit
  | _ => []

/-- The fraction is taken from the front, by the two cases of the scan. -/
theorem scanFraction_isPrefix (text : List Char) : scanFraction text <+: text := by
  unfold scanFraction
  split
  · exact List.cons_prefix_cons.mpr ⟨rfl, List.takeWhile_prefix _⟩
  · exact List.nil_prefix

/-- The digits and the fraction at the start of a text. Either may be empty. -/
def scanMantissa (text : List Char) : List Char :=
  text.takeWhile Char.isDigit ++ scanFraction (text.dropWhile Char.isDigit)

/-- The mantissa is taken from the front: the digits are, and the fraction from what they leave. -/
theorem scanMantissa_isPrefix (text : List Char) : scanMantissa text <+: text := by
  have parts := List.takeWhile_append_dropWhile (p := Char.isDigit) (l := text)
  conv => rhs; rw [← parts]
  exact (List.prefix_append_right_inj _).mpr (scanFraction_isPrefix _)

/-- A literal that starts here has a mantissa, with a digit or a point in front. -/
theorem scanMantissa_ne_nil {c : Char} {rest : List Char} (start : startsNumber c rest)
    : scanMantissa (c :: rest) ≠ [] := by
  simp only [startsNumber, Bool.or_eq_true, Bool.and_eq_true, decide_eq_true_eq] at start
  rcases start with digit | ⟨rfl, _⟩
  · simp [scanMantissa, digit]
  · simp [scanMantissa, scanFraction, Char.isDigit]

/-- The sign at the start of a text. -/
def scanSign : List Char → List Char
  | '+' :: _ => ['+']
  | '-' :: _ => ['-']
  | _ => []

/-- The sign is taken from the front, by the cases of the scan. -/
theorem scanSign_isPrefix (text : List Char) : scanSign text <+: text := by
  unfold scanSign
  split <;> simp

/-- The exponent at the start of a text, or nothing. An exponent without digits is malformed. -/
def scanExponent : List Char → Scan
  | [] => ⟨[], true⟩
  | c :: rest =>
    if isExponentMark c then
      let sign := scanSign rest
      let digits := (rest.drop sign.length).takeWhile Char.isDigit
      ⟨c :: (sign ++ digits), !digits.isEmpty⟩
    else
      ⟨[], true⟩

/-- The exponent is taken from the front: its mark, its sign and its digits one after the other. -/
theorem scanExponent_isPrefix (text : List Char) : (scanExponent text).text <+: text := by
  unfold scanExponent
  split
  · exact List.nil_prefix
  · split
    · exact List.cons_prefix_cons.mpr
        ⟨rfl, append_isPrefix_of_drop (scanSign_isPrefix _) (List.takeWhile_prefix _)⟩
    · exact List.nil_prefix

/-- The number at the start of a text: digits, a fraction and an exponent, each taken where it is
there and as far as it goes.
-/
def scanNumber (text : List Char) : Scan :=
  let mantissa := scanMantissa text
  (scanExponent (text.drop mantissa.length)).behind mantissa

/-- A number is taken from the front, its exponent from what its mantissa leaves. -/
theorem scanNumber_isPrefix (text : List Char) : (scanNumber text).text <+: text :=
  append_isPrefix_of_drop (scanMantissa_isPrefix text) (scanExponent_isPrefix _)

/-- A literal that starts here takes some text, since its mantissa does. -/
theorem scanNumber_ne_nil {c : Char} {rest : List Char} (start : startsNumber c rest)
    : (scanNumber (c :: rest)).text ≠ [] := by
  simp [scanNumber, Scan.behind, scanMantissa_ne_nil start]

/-- The number (significand · 10 ^ exponent), which a literal writes. -/
structure Decimal where
  significand : Nat
  exponent : Int
deriving DecidableEq, Repr

/-- The natural number that a list of decimal digits writes. -/
def digitsValue (digits : List Char) : Nat :=
  digits.foldl (fun value c => 10 * value + (c.toNat - '0'.toNat)) 0

/-- The exponent that all of a text writes; no text at all writes zero. -/
def readExponent? : List Char → Option Int
  | [] => some 0
  | c :: rest =>
    let sign := scanSign rest
    let digits := rest.drop sign.length
    if isExponentMark c && !digits.isEmpty && digits.all Char.isDigit then
      some (if sign = ['-'] then -(digitsValue digits : Int) else digitsValue digits)
    else
      none

/-- The number that all of a text writes. Its mantissa needs a digit, before or behind the point. -/
def Decimal.read? (text : List Char) : Option Decimal :=
  let whole := text.takeWhile Char.isDigit
  let fraction := (scanFraction (text.dropWhile Char.isDigit)).drop 1
  if whole.isEmpty && fraction.isEmpty then none
  else (readExponent? (text.drop (scanMantissa text).length)).map fun exponent =>
    ⟨digitsValue (whole ++ fraction), exponent - fraction.length⟩

/-- The double nearest to a decimal number, and infinity beyond the largest double. The numbers
that are so far out that nothing but zero or infinity can be meant are told by their size.
-/
def Decimal.toFloat (decimal : Decimal) : Float :=
  if decimal.significand = 0 then 0.0
  else if 400 < decimal.exponent then infinity
  else if decimal.exponent + decimal.significand.log2 + 1 < -400 then 0.0
  else Float.ofScientific decimal.significand (decimal.exponent < 0) decimal.exponent.natAbs

/-- The double that all of a text writes: an optional sign, and then a decimal number or the name of
infinity or of no number, in any case.
-/
def readFloat? (text : List Char) : Option Float :=
  let sign := scanSign text
  let magnitude := text.drop sign.length
  let value? := match Decimal.read? magnitude with
    | some decimal => some decimal.toFloat
    | none =>
      match String.ofList (magnitude.map Char.toLower) with
      | "inf" | "infinity" => some infinity
      | "nan" => some notANumber
      | _ => none
  value?.map fun value => if sign = ['-'] then -value else value

end FormulaCompiler
