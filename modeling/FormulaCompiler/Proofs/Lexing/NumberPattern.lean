import FormulaCompiler.Proofs.Lexing.LongestMatch
import FormulaCompiler.Proofs.Lexing.NumberEnds

/-! The pattern of number literals. The number at the start of a text is the longest literal there,
unless its exponent breaks off before a digit. Then it ends where the exponent does.
-/

namespace FormulaCompiler

namespace NumberPattern

/-- A digit. -/
def digit : RegularExpression Char :=
  oneOf ['0', '1', '2', '3', '4', '5', '6', '7', '8', '9']

/-- Digits, if there are any. -/
def digits : RegularExpression Char :=
  digit.star

/-- Digits, one at least. -/
def someDigits : RegularExpression Char :=
  digit * digits

/-- A point and the digits behind it, if there are any. -/
def fraction : RegularExpression Char :=
  oneOf ['.'] * digits

/-- The digits and the fraction of a literal. Either may be absent. -/
def mantissa : RegularExpression Char :=
  digits * (1 + fraction)

/-- The mark of an exponent, and its sign if it has one. -/
def exponentHead : RegularExpression Char :=
  oneOf ['e', 'E'] * (1 + oneOf ['+', '-'])

/-- An exponent. It has a digit at least. -/
def exponent : RegularExpression Char :=
  exponentHead * someDigits

/-- A literal, of which each part may be absent. -/
def literal : RegularExpression Char :=
  mantissa * (1 + exponent)

/-- A literal with a digit in its mantissa, before the point or behind it. -/
def numeral : RegularExpression Char :=
  (digit * mantissa + oneOf ['.'] * someDigits) * (1 + exponent)

example : ".e5".toList ∈ literal.matches' ∧ ".e5".toList ∉ numeral.matches' := by decide +kernel

-----------------------------------------------------------------------------------------
-- Digits
-----------------------------------------------------------------------------------------

theorem isDigit_iff {c : Char} : c.isDigit ↔ c ∈ patternLetters digits := by
  have codes (code : Nat)
      : 48 ≤ code ∧ code ≤ 57
        ↔ code = 48 ∨ code = 49 ∨ code = 50 ∨ code = 51 ∨ code = 52
          ∨ code = 53 ∨ code = 54 ∨ code = 55 ∨ code = 56 ∨ code = 57 := by
    omega
  change c.isDigit ↔ c ∈ ['0', '1', '2', '3', '4', '5', '6', '7', '8', '9']
  simp only [Char.isDigit, Bool.and_eq_true, decide_eq_true_eq, UInt32.le_iff_toNat_le,
    List.mem_cons, List.not_mem_nil, or_false, Char.ext_iff, ← UInt32.toNat_inj]
  exact codes c.val.toNat

theorem mem_digit {c : Char} (isDigit : c.isDigit) : [c] ∈ digit.matches' :=
  mem_oneOf.mpr ⟨c, isDigit_iff.mp isDigit, rfl⟩

theorem mem_digits {text : List Char} : text ∈ digits.matches' ↔ ∀ c ∈ text, c.isDigit := by
  refine ⟨fun matched c member => isDigit_iff.mpr (mem_patternLetters matched c member), ?_⟩
  intro all
  refine Language.mem_kstar.mpr ⟨text.map ([·]), ?_, fun word listed => ?_⟩
  · rw [← List.flatMap_def, List.flatMap_singleton']
  · obtain ⟨c, member, rfl⟩ := List.mem_map.mp listed
    exact mem_digit (all c member)

theorem digits_of_someDigits {text : List Char} (matched : text ∈ someDigits.matches')
    : text ∈ digits.matches' := by
  have included : someDigits.matches' ≤ digits.matches' := mul_kstar_le_kstar
  exact included matched

theorem mem_someDigits {c : Char} {more : List Char} (all : ∀ d ∈ c :: more, d.isDigit)
    : c :: more ∈ someDigits.matches' := by
  rw [List.forall_mem_cons] at all
  exact Language.mem_mul.mpr ⟨[c], mem_digit all.1, more, mem_digits.mpr all.2, rfl⟩

theorem ne_nil_of_someDigits {text : List Char} (matched : text ∈ someDigits.matches')
    : text ≠ [] := by
  rintro rfl
  exact absurd (matchEpsilon_of_nil matched) (by decide)

theorem longestMatch_digits (text : List Char)
    : LongestMatch digits.matches' text (text.takeWhile Char.isDigit) where
  begins := List.takeWhile_prefix _
  member := mem_digits.mpr (List.all_eq_true.mp List.all_takeWhile)
  longest other begins member := by
    obtain ⟨rest, rfl⟩ := begins
    rw [List.takeWhile_append_of_pos (mem_digits.mp member), List.length_append]
    exact Nat.le_add_right _ _

theorem longestMatch_someDigits {text : List Char} (some : text.takeWhile Char.isDigit ≠ [])
    : LongestMatch someDigits.matches' text (text.takeWhile Char.isDigit) := by
  have longest := longestMatch_digits text
  have all := mem_digits.mp longest.member
  obtain ⟨c, more, taken⟩ := List.exists_cons_of_ne_nil some
  exact longest.restrict (fun _ => digits_of_someDigits) (taken ▸ mem_someDigits (taken ▸ all))

-----------------------------------------------------------------------------------------
-- The parts of a number
-----------------------------------------------------------------------------------------

theorem longestMatch_fraction (text : List Char)
    : LongestMatch (1 + fraction).matches' text (scanFraction text) := by
  unfold scanFraction
  split
  · rename_i rest
    have point := longestMatch_oneOf (List.mem_singleton_self '.') rest
    exact (point.append (by decide) rfl (longestMatch_digits rest)).optional
  · rename_i plain
    refine longestMatch_nil rfl ?_
    intro c listed head
    obtain rfl := List.mem_singleton.mp listed
    obtain ⟨rest, rfl⟩ := List.head?_eq_some_iff.mp head
    exact plain rest rfl

theorem longestMatch_mantissa (text : List Char)
    : LongestMatch mantissa.matches' text (scanMantissa text) :=
  (longestMatch_digits text).append (by decide) List.takeWhile_append_dropWhile.symm
    (longestMatch_fraction _)

theorem longestMatch_sign (text : List Char)
    : LongestMatch (1 + oneOf ['+', '-']).matches' text (scanSign text) := by
  unfold scanSign
  split
  · exact (longestMatch_oneOf (by decide) _).optional
  · exact (longestMatch_oneOf (by decide) _).optional
  · rename_i noPlus noMinus
    refine longestMatch_nil rfl ?_
    intro c listed head
    obtain ⟨rest, rfl⟩ := List.head?_eq_some_iff.mp head
    rcases List.mem_pair.mp listed with rfl | rfl
    · exact noPlus rest rfl
    · exact noMinus rest rfl

theorem isExponentMark_iff {c : Char} : isExponentMark c ↔ c ∈ firstLetters exponentHead := by
  change isExponentMark c ↔ c ∈ ['e', 'E']
  simp [isExponentMark]

theorem longestMatch_exponentHead {c : Char} (mark : isExponentMark c) (rest : List Char)
    : LongestMatch exponentHead.matches' (c :: rest) (c :: scanSign rest) :=
  (longestMatch_oneOf (isExponentMark_iff.mp mark) rest).append (by decide) rfl
    (longestMatch_sign rest)

/-- An exponent takes its mark, its sign and the digits that the sign leaves. -/
theorem scanExponent_of_mark {c : Char} (mark : isExponentMark c) (rest : List Char)
    : ∃ behind,
        rest = scanSign rest ++ behind
        ∧ scanExponent (c :: rest)
          = ⟨c :: (scanSign rest ++ behind.takeWhile Char.isDigit),
            !(behind.takeWhile Char.isDigit).isEmpty⟩ := by
  refine ⟨_, (List.prefix_iff_eq_append.mp (scanSign_isPrefix rest)).symm, ?_⟩
  rw [scanExponent, if_pos mark]

theorem marked_or_plain (text : List Char)
    : (∃ c rest, text = c :: rest ∧ isExponentMark c)
      ∨ ∀ c, text.head? = some c → ¬isExponentMark c := by
  cases text with
  | nil => exact .inr nofun
  | cons c rest =>
      by_cases mark : isExponentMark c
      · exact .inl ⟨c, rest, rfl, mark⟩
      · exact .inr (by simpa using mark)

theorem longestMatch_exponent {text : List Char} (complete : (scanExponent text).wellFormed)
    : LongestMatch (1 + exponent).matches' text (scanExponent text).text := by
  rcases marked_or_plain text with ⟨c, rest, rfl, mark⟩ | plain
  · obtain ⟨behind, parts, scanned⟩ := scanExponent_of_mark mark rest
    rw [scanned] at complete ⊢
    have some : behind.takeWhile Char.isDigit ≠ [] := by simpa using complete
    exact ((longestMatch_exponentHead mark rest).append (by decide) (congrArg (c :: ·) parts)
      (longestMatch_someDigits some)).optional
  · rw [scanExponent_of_plain plain]
    exact longestMatch_nil rfl fun c listed head => plain c head (isExponentMark_iff.mpr listed)

-----------------------------------------------------------------------------------------
-- Numbers
-----------------------------------------------------------------------------------------

theorem longestMatch_literal {text : List Char} (complete : (scanNumber text).wellFormed)
    : LongestMatch literal.matches' text (scanNumber text).text := by
  obtain ⟨behind, parts, scanned⟩ := exists_behind_mantissa text
  rw [scanned] at complete ⊢
  exact (longestMatch_mantissa text).append (by decide) parts (longestMatch_exponent complete)

/-- A number that is not well formed ends with the head of an exponent, before no digit. -/
theorem exists_head_of_broken {text : List Char} (broken : (scanNumber text).wellFormed = false)
    : ∃ head rest,
        text = scanMantissa text ++ (head ++ rest)
        ∧ (scanNumber text).text = scanMantissa text ++ head
        ∧ LongestMatch exponentHead.matches' (head ++ rest) head
        ∧ rest.takeWhile Char.isDigit = [] := by
  obtain ⟨behind, parts, scanned⟩ := exists_behind_mantissa text
  rw [scanned] at broken ⊢
  rcases marked_or_plain behind with ⟨c, rest, rfl, mark⟩ | plain
  · obtain ⟨left, signed, exponent⟩ := scanExponent_of_mark mark rest
    rw [exponent] at broken ⊢
    have none : left.takeWhile Char.isDigit = [] := by simpa [Scan.behind] using broken
    have split : c :: rest = c :: scanSign rest ++ left := congrArg (c :: ·) signed
    refine ⟨c :: scanSign rest, left, split ▸ parts, by simp [Scan.behind, none], ?_, none⟩
    exact split ▸ longestMatch_exponentHead mark rest
  · rw [scanExponent_of_plain plain] at broken
    cases broken

/-- The head of an exponent that no digit follows breaks off the number. -/
theorem scanNumber_of_head {text head rest : List Char}
    (parts : text = scanMantissa text ++ (head ++ rest))
    (longest : LongestMatch exponentHead.matches' (head ++ rest) head)
    (none : rest.takeWhile Char.isDigit = [])
    : scanNumber text = ⟨scanMantissa text ++ head, false⟩ := by
  obtain ⟨behind, also, scanned⟩ := exists_behind_mantissa text
  obtain rfl := List.append_cancel_left (also.symm.trans parts)
  cases head with
  | nil => exact absurd (matchEpsilon_of_nil longest.member) (by decide)
  | cons c signs =>
      have mark := isExponentMark_iff.mpr (mem_firstLetters longest.member)
      have same := longest.unique (longestMatch_exponentHead mark (signs ++ rest))
      obtain ⟨left, signed, exponent⟩ := scanExponent_of_mark mark (signs ++ rest)
      rw [← (List.cons.inj same).2] at signed exponent
      obtain rfl := List.append_cancel_left signed
      rw [scanned, List.cons_append, exponent, none]
      simp [Scan.behind]

/-- A number has only the letters of literals, whether it breaks off or not. -/
theorem mem_letters_of_scanNumber {text : List Char} {c : Char}
    (member : c ∈ (scanNumber text).text)
    : c ∈ patternLetters literal := by
  cases wellFormed : (scanNumber text).wellFormed with
  | true => exact mem_patternLetters (longestMatch_literal wellFormed).member c member
  | false =>
      obtain ⟨head, rest, -, taken, opening, -⟩ := exists_head_of_broken wellFormed
      have parts : patternLetters literal
          = patternLetters mantissa
            ++ (patternLetters exponentHead ++ patternLetters someDigits) :=
        rfl
      rw [taken, List.mem_append] at member
      rw [parts, List.mem_append, List.mem_append]
      rcases member with inMantissa | inHead
      · exact .inl (mem_patternLetters (longestMatch_mantissa text).member c inMantissa)
      · exact .inr (.inl (mem_patternLetters opening.member c inHead))

end NumberPattern

end FormulaCompiler
