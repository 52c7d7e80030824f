import FormulaCompiler.Number.Literal

/-! Where a number ends is decided by the one character behind it. So the text behind a number can
be replaced by another one, as long as the number does not go on with that.
-/

namespace FormulaCompiler

/-- Whether a number can go on with this character. -/
def continuesNumber (c : Char) : Bool :=
  c.isDigit || c = '.' || isExponentMark c || c = '+' || c = '-'

/-- Whether a number that ends before (rest) also ends before (other). This begins with the same
character, or with one that no number goes on with, or is empty.
-/
def EndsNumberLike (rest other : List Char) : Prop :=
  ∀ c, other.head? = some c → continuesNumber c → rest.head? = some c

theorem EndsNumberLike.append {rest other : List Char} (alike : EndsNumberLike rest other)
    (front : List Char)
    : EndsNumberLike (front ++ rest) (front ++ other) := by
  cases front with
  | nil => exact alike
  | cons c front => exact fun _ head _ => head

theorem scanExponent_of_plain {text : List Char}
    (plain : ∀ c, text.head? = some c → ¬isExponentMark c)
    : scanExponent text = ⟨[], true⟩ := by
  cases text with
  | nil => rfl
  | cons c more =>
      unfold scanExponent
      exact if_neg (plain c rfl)

/-- A number is its mantissa and the exponent behind that. -/
theorem exists_behind_mantissa (text : List Char)
    : ∃ behind,
        text = scanMantissa text ++ behind
        ∧ scanNumber text = (scanExponent behind).behind (scanMantissa text) :=
  ⟨_, (List.prefix_iff_eq_append.mp (scanMantissa_isPrefix text)).symm, rfl⟩

theorem continuesNumber_of_isDigit {c : Char} (digit : c.isDigit) : continuesNumber c := by
  simp [continuesNumber, digit]

-----------------------------------------------------------------------------------------
-- The parts of a number
-----------------------------------------------------------------------------------------

section

variable {rest other : List Char} (alike : EndsNumberLike rest other)

include alike

theorem EndsNumberLike.takeWhile_eq {front : List Char}
    (taken : (front ++ rest).takeWhile Char.isDigit = front)
    : (front ++ other).takeWhile Char.isDigit = front := by
  induction front with
  | nil =>
      cases other with
      | nil => rfl
      | cons c more =>
          rw [List.nil_append, List.takeWhile_cons, ite_eq_right_iff]
          intro digit
          have head := alike c rfl (continuesNumber_of_isDigit digit)
          obtain ⟨behind, rfl⟩ := List.head?_eq_some_iff.mp head
          simp [digit] at taken
  | cons c front ih =>
      rw [List.cons_append, List.takeWhile_cons] at taken ⊢
      split at taken
      · rw [if_pos ‹_›, ih (List.cons.inj taken).2]
      · cases taken

theorem EndsNumberLike.dropWhile_eq {front : List Char}
    (taken : (front ++ rest).takeWhile Char.isDigit = front)
    : (front ++ other).dropWhile Char.isDigit = other := by
  have parts := List.takeWhile_append_dropWhile (p := Char.isDigit) (l := front ++ other)
  rw [alike.takeWhile_eq taken] at parts
  exact List.append_cancel_left parts

theorem EndsNumberLike.scanFraction_eq {front : List Char}
    (taken : scanFraction (front ++ rest) = front)
    : scanFraction (front ++ other) = front := by
  cases front with
  | nil =>
      rw [List.nil_append] at taken ⊢
      unfold scanFraction
      split
      · have head := alike '.' rfl (by decide)
        obtain ⟨behind, rfl⟩ := List.head?_eq_some_iff.mp head
        cases taken
      · rfl
  | cons c front =>
      unfold scanFraction at taken
      split at taken
      · rename_i digits same
        obtain ⟨rfl, rfl⟩ := List.cons.inj same
        have digits := alike.takeWhile_eq (List.cons.inj taken).2
        rw [List.cons_append, scanFraction, digits]
      · cases taken

theorem EndsNumberLike.scanMantissa_eq {front : List Char}
    (taken : scanMantissa (front ++ rest) = front)
    : scanMantissa (front ++ other) = front := by
  obtain ⟨digits, fraction, rfl, whole, point⟩
      : ∃ digits fraction, front = digits ++ fraction
          ∧ (digits ++ (fraction ++ rest)).takeWhile Char.isDigit = digits
          ∧ scanFraction (fraction ++ rest) = fraction := by
    have parts := List.takeWhile_append_dropWhile (p := Char.isDigit) (l := front ++ rest)
    unfold scanMantissa at taken
    generalize behind : (front ++ rest).dropWhile Char.isDigit = left at taken parts
    generalize digits : (front ++ rest).takeWhile Char.isDigit = whole at taken parts
    have split : whole ++ (scanFraction left ++ rest) = front ++ rest := by
      rw [← List.append_assoc, taken]
    have same := List.append_cancel_left (parts.trans split.symm)
    exact ⟨whole, _, taken.symm, by rw [split, digits], by rw [← same]⟩
  have fractionAlike := alike.append fraction
  rw [List.append_assoc]
  unfold scanMantissa
  rw [fractionAlike.takeWhile_eq whole, fractionAlike.dropWhile_eq whole,
    alike.scanFraction_eq point]

theorem EndsNumberLike.scanSign_eq {front : List Char} (taken : scanSign (front ++ rest) = front)
    : scanSign (front ++ other) = front := by
  cases front with
  | nil =>
      rw [List.nil_append] at taken ⊢
      unfold scanSign
      split
      · have head := alike '+' rfl (by decide)
        obtain ⟨behind, rfl⟩ := List.head?_eq_some_iff.mp head
        cases taken
      · have head := alike '-' rfl (by decide)
        obtain ⟨behind, rfl⟩ := List.head?_eq_some_iff.mp head
        cases taken
      · rfl
  | cons c front =>
      unfold scanSign at taken
      split at taken
      · obtain ⟨rfl, rfl⟩ := List.cons.inj taken
        rfl
      · obtain ⟨rfl, rfl⟩ := List.cons.inj taken
        rfl
      · cases taken

/-- An exponent that ends before one text also ends before the other one, and is complete before
both or before none.
-/
theorem EndsNumberLike.scanExponent_eq {front : List Char} {wellFormed : Bool}
    (taken : scanExponent (front ++ rest) = ⟨front, wellFormed⟩)
    : scanExponent (front ++ other) = ⟨front, wellFormed⟩ := by
  cases front with
  | nil =>
      have plain : ∀ c, rest.head? = some c → ¬isExponentMark c := by
        intro c head mark
        obtain ⟨behind, rfl⟩ := List.head?_eq_some_iff.mp head
        rw [List.nil_append, scanExponent, if_pos mark] at taken
        cases taken
      rw [List.nil_append, scanExponent_of_plain plain] at taken
      rw [List.nil_append, ← taken, scanExponent_of_plain]
      intro c head mark
      exact plain c (alike c head (by simp [continuesNumber, mark])) mark
  | cons c front =>
      rw [List.cons_append, scanExponent] at taken ⊢
      split at taken
      · rename_i mark
        rw [if_pos mark]
        obtain ⟨text, complete⟩ := Scan.mk.inj taken
        obtain ⟨sign, digits, rfl, signed, counted⟩
            : ∃ sign digits, front = sign ++ digits
                ∧ scanSign (sign ++ (digits ++ rest)) = sign
                ∧ (digits ++ rest).takeWhile Char.isDigit = digits := by
          obtain ⟨-, parts⟩ := List.cons.inj text
          obtain ⟨left, behind⟩ := scanSign_isPrefix (front ++ rest)
          generalize sign : scanSign (front ++ rest) = mark at parts behind
          rw [← behind, List.drop_left] at parts
          have split : mark ++ (left.takeWhile Char.isDigit ++ rest) = front ++ rest := by
            rw [← List.append_assoc, parts]
          have same := List.append_cancel_left (behind.trans split.symm)
          exact ⟨mark, _, parts.symm, by rw [split, sign], by rw [← same]⟩
        rw [List.append_assoc, signed, List.drop_left, counted] at complete
        rw [List.append_assoc, (alike.append digits).scanSign_eq signed]
        dsimp only
        rw [List.drop_left, alike.takeWhile_eq counted, complete]
      · cases taken

end

/-- A number that ends before one text also ends before the other one, and is well formed before
both or before none.
-/
theorem EndsNumberLike.scanNumber_eq {rest other : List Char} (alike : EndsNumberLike rest other)
    {front : List Char} {wellFormed : Bool}
    (taken : scanNumber (front ++ rest) = ⟨front, wellFormed⟩)
    : scanNumber (front ++ other) = ⟨front, wellFormed⟩ := by
  obtain ⟨mantissa, exponent, rfl, first, second⟩
      : ∃ mantissa exponent, front = mantissa ++ exponent
          ∧ scanMantissa (mantissa ++ (exponent ++ rest)) = mantissa
          ∧ scanExponent (exponent ++ rest) = ⟨exponent, wellFormed⟩ := by
    obtain ⟨left, behind, scanned⟩ := exists_behind_mantissa (front ++ rest)
    generalize mantissa : scanMantissa (front ++ rest) = first at behind scanned
    obtain ⟨parts, complete⟩ := Scan.mk.inj (taken.symm.trans scanned)
    have split : first ++ ((scanExponent left).text ++ rest) = front ++ rest := by
      rw [← List.append_assoc, ← parts]
    have same := List.append_cancel_left (behind.symm.trans split.symm)
    exact ⟨first, _, parts, by rw [split, mantissa], by rw [← same, complete]⟩
  rw [List.append_assoc]
  unfold scanNumber
  dsimp only
  rw [(alike.append exponent).scanMantissa_eq first, List.drop_left, alike.scanExponent_eq second]
  rfl

-----------------------------------------------------------------------------------------
-- The character behind a number
-----------------------------------------------------------------------------------------

/-- No digit stands behind digits that are taken as far as they go. -/
theorem not_isDigit_of_dropWhile {text : List Char} {c : Char}
    (head : (text.dropWhile Char.isDigit).head? = some c)
    : ¬c.isDigit := by
  have stopped := List.head?_dropWhile_not Char.isDigit text
  rw [head] at stopped
  simpa using stopped

theorem dropWhile_eq_of_append {text behind : List Char}
    (parts : text.takeWhile Char.isDigit ++ behind = text)
    : behind = text.dropWhile Char.isDigit := by
  have split := List.takeWhile_append_dropWhile (p := Char.isDigit) (l := text)
  exact List.append_cancel_left (parts.trans split.symm)

theorem not_isDigit_behind_fraction {text behind : List Char} {c : Char}
    (parts : scanFraction text ++ behind = text) (head : behind.head? = some c)
    (noDigit : ∀ d, text.head? = some d → ¬d.isDigit)
    : ¬c.isDigit := by
  unfold scanFraction at parts
  split at parts
  · obtain ⟨-, digits⟩ := List.cons.inj parts
    rw [dropWhile_eq_of_append digits] at head
    exact not_isDigit_of_dropWhile head
  · rw [List.nil_append] at parts
    exact noDigit c (parts ▸ head)

theorem not_isDigit_behind_mantissa {text behind : List Char} {c : Char}
    (parts : scanMantissa text ++ behind = text) (head : behind.head? = some c)
    : ¬c.isDigit := by
  rw [scanMantissa, List.append_assoc] at parts
  have left := dropWhile_eq_of_append parts
  exact not_isDigit_behind_fraction left head fun _ => not_isDigit_of_dropWhile

theorem not_isDigit_behind_exponent {text behind : List Char} {c : Char}
    (parts : (scanExponent text).text ++ behind = text) (head : behind.head? = some c)
    (noDigit : ∀ d, text.head? = some d → ¬d.isDigit)
    : ¬c.isDigit := by
  unfold scanExponent at parts
  split at parts
  · exact noDigit c (parts ▸ head)
  · split at parts
    · rename_i mark rest _
      obtain ⟨left, signed⟩ := scanSign_isPrefix rest
      generalize scanSign rest = sign at parts signed
      subst signed
      simp only [List.drop_left, List.cons_append, List.append_assoc, List.cons.injEq,
        List.append_cancel_left_eq, true_and] at parts
      rw [dropWhile_eq_of_append parts] at head
      exact not_isDigit_of_dropWhile head
    · exact noDigit c (parts ▸ head)

/-- A number takes all digits that it can: none stands right behind it. -/
theorem not_isDigit_behind_number {front rest : List Char} {wellFormed : Bool} {c : Char}
    (scanned : scanNumber (front ++ rest) = ⟨front, wellFormed⟩) (head : rest.head? = some c)
    : ¬c.isDigit := by
  generalize whole : front ++ rest = text at scanned
  obtain ⟨left, mantissa, parts⟩ := exists_behind_mantissa text
  have taken : scanMantissa text ++ (scanExponent left).text = front :=
    congrArg Scan.text (parts.symm.trans scanned)
  have split : scanMantissa text ++ ((scanExponent left).text ++ rest)
      = scanMantissa text ++ left := by
    rw [← List.append_assoc, taken, whole, ← mantissa]
  exact not_isDigit_behind_exponent (List.append_cancel_left split) head fun _ found =>
    not_isDigit_behind_mantissa mantissa.symm found

end FormulaCompiler
