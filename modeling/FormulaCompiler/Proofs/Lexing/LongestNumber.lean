import FormulaCompiler.Proofs.Lexing.FirstLexeme
import FormulaCompiler.Proofs.Lexing.NumberPattern

/-! Numbers as longest matches in the bytes of a text. The scan for a number takes the longest
literal, or what there is of one that breaks off, and a literal with a digit in its mantissa is
always read.
-/

namespace FormulaCompiler

namespace NumberPattern

-----------------------------------------------------------------------------------------
-- The bytes of a number
-----------------------------------------------------------------------------------------

/-- (BreaksOff bytes front) says that (front) begins a literal that no digit completes. It is the
longest mantissa of (bytes), and behind that the mark of an exponent, with a sign if there is one.
-/
def BreaksOff (bytes front : List UInt8) : Prop :=
  ∃ whole head rest,
    bytes = whole ++ (head ++ rest)
    ∧ front = whole ++ head
    ∧ LongestMatch (storedMatches mantissa) bytes whole
    ∧ LongestMatch (storedMatches exponentHead) (head ++ rest) head
    ∧ ∀ next ∈ storedMatches digit, ¬next <+: rest

theorem noDigit_stored_iff {rest : List Char}
    : (∀ next ∈ storedMatches digit, ¬next <+: storedBytes rest)
      ↔ rest.takeWhile Char.isDigit = [] := by
  constructor
  · intro noDigit
    by_contra some
    obtain ⟨c, more, taken⟩ := List.exists_cons_of_ne_nil some
    have isDigit := mem_digits.mp (longestMatch_digits rest).member c (by simp [taken])
    have begins : [c] <+: rest :=
      List.IsPrefix.trans ⟨more, taken.symm⟩ (List.takeWhile_prefix _)
    exact noDigit _ ⟨[c], mem_digit isDigit, rfl⟩ (storedBytes_isPrefix_iff.mpr begins)
  · rintro none _ ⟨word, member, rfl⟩ begins
    obtain ⟨c, listed, rfl⟩ := mem_oneOf.mp member
    obtain ⟨more, rfl⟩ := storedBytes_isPrefix_iff.mp begins
    have isDigit : c.isDigit := isDigit_iff.mpr listed
    simp [isDigit] at none

/-- A number is not well formed exactly if a literal breaks off, and then it is what there is of
that.
-/
theorem breaksOff_iff {text : List Char} {bytes : List UInt8}
    : BreaksOff (storedBytes text) bytes
      ↔ (scanNumber text).wellFormed = false ∧ bytes = storedBytes (scanNumber text).text := by
  constructor
  · rintro ⟨whole, head, rest, parts, rfl, longest, opening, noDigit⟩
    obtain ⟨own, rfl, matched⟩ := longestMatch_stored_iff.mp longest
    obtain rfl := matched.unique (longestMatch_mantissa text)
    obtain ⟨behind, split⟩ := scanMantissa_isPrefix text
    have joined := congrArg storedBytes split
    rw [storedBytes_append] at joined
    have left := List.append_cancel_left (joined.trans parts)
    rw [← left] at opening
    obtain ⟨head, rfl, matched⟩ := longestMatch_stored_iff.mp opening
    obtain ⟨rest', rfl⟩ := matched.begins
    rw [storedBytes_append, List.append_cancel_left_eq] at left
    subst left
    rw [scanNumber_of_head split.symm matched (noDigit_stored_iff.mp noDigit)]
    exact ⟨rfl, (storedBytes_append _ _).symm⟩
  · rintro ⟨broken, rfl⟩
    obtain ⟨head, rest, parts, taken, longest, none⟩ := exists_head_of_broken broken
    refine ⟨storedBytes (scanMantissa text), storedBytes head, storedBytes rest, ?_, ?_, ?_, ?_,
      noDigit_stored_iff.mpr none⟩
    · rw [← storedBytes_append, ← storedBytes_append, ← parts]
    · rw [taken, storedBytes_append]
    · exact longestMatch_stored_iff.mpr ⟨_, rfl, longestMatch_mantissa text⟩
    · rw [← storedBytes_append]
      exact longestMatch_stored_iff.mpr ⟨_, rfl, longest⟩

theorem ascii_scanNumber (text : List Char) : ∀ c ∈ (scanNumber text).text, c.toNat < 0x80 := by
  have ascii : (patternLetters literal).all (·.toNat < 0x80) := by decide
  intro c member
  exact of_decide_eq_true (List.all_eq_true.mp ascii c (mem_letters_of_scanNumber member))

-----------------------------------------------------------------------------------------
-- Numbers that are read
-----------------------------------------------------------------------------------------

/-- A well-formed number has a digit in its mantissa if a literal begins there. -/
theorem scanNumber_mem_numeral {c : Char} {rest : List Char} (start : startsNumber c rest)
    (complete : (scanNumber (c :: rest)).wellFormed)
    : (scanNumber (c :: rest)).text ∈ numeral.matches' := by
  obtain ⟨behind, -, scanned⟩ := exists_behind_mantissa (c :: rest)
  rw [scanned] at complete ⊢
  refine Language.mem_mul.mpr ⟨_, ?_, _, (longestMatch_exponent complete).member, rfl⟩
  simp only [startsNumber, Bool.or_eq_true, Bool.and_eq_true, decide_eq_true_eq] at start
  rcases start with isDigit | ⟨rfl, isDigit⟩
  · have whole : scanMantissa (c :: rest) = [c] ++ scanMantissa rest := by
      simp [scanMantissa, isDigit]
    rw [whole]
    have member := (longestMatch_mantissa rest).member
    exact .inl (Language.mem_mul.mpr ⟨[c], mem_digit isDigit, _, member, rfl⟩)
  · have whole : scanMantissa ('.' :: rest) = ['.'] ++ rest.takeWhile Char.isDigit := by
      simp [scanMantissa, scanFraction, Char.isDigit]
    have some : rest.takeWhile Char.isDigit ≠ [] := by
      cases rest with
      | nil => cases isDigit
      | cons d more => simp [show d.isDigit from isDigit]
    rw [whole]
    have point := mem_oneOf.mpr ⟨'.', List.mem_singleton_self '.', rfl⟩
    have member := (longestMatch_someDigits some).member
    exact .inr (Language.mem_mul.mpr ⟨['.'], point, _, member, rfl⟩)

theorem exists_readExponent {text : List Char} (written : text ∈ (1 + exponent).matches')
    : ∃ value, readExponent? text = some value := by
  rcases written with rfl | ⟨_, ⟨_, marked, sign, signed, rfl⟩, digits, counted, rfl⟩
  · exact ⟨0, rfl⟩
  · obtain ⟨c, listed, rfl⟩ := mem_oneOf.mp marked
    have mark : isExponentMark c := isExponentMark_iff.mpr listed
    have own := longestMatch_of_apart (by decide) signed counted
    have same := (longestMatch_sign (sign ++ digits)).unique own
    have all := mem_digits.mp (digits_of_someDigits counted)
    have some := ne_nil_of_someDigits counted
    simpa [readExponent?, same, mark, some] using all

/-- The mantissa of a numeral is a mantissa with a digit in it. -/
theorem mem_mantissa_of_numeral {text : List Char}
    (written : text ∈ (digit * mantissa + oneOf ['.'] * someDigits).matches')
    : text ∈ mantissa.matches' ∧ ∃ c ∈ text, c.isDigit := by
  rcases written with ⟨_, first, _, ⟨digits, counted, fraction, pointed, rfl⟩, rfl⟩
    | ⟨_, point, digits, counted, rfl⟩
  · obtain ⟨c, listed, rfl⟩ := mem_oneOf.mp first
    have whole := digits_of_someDigits (Language.mem_mul.mpr ⟨[c], first, digits, counted, rfl⟩)
    refine ⟨Language.mem_mul.mpr ⟨_, whole, fraction, pointed, rfl⟩, c, by simp, ?_⟩
    exact isDigit_iff.mpr listed
  · obtain ⟨c, more, rfl⟩ := List.exists_cons_of_ne_nil (ne_nil_of_someDigits counted)
    have all := digits_of_someDigits counted
    refine ⟨Language.mem_mul.mpr ⟨[], Language.nil_mem_kstar _, _, .inr ?_, rfl⟩, c, by simp, ?_⟩
    · exact Language.mem_mul.mpr ⟨_, point, _, all, rfl⟩
    · exact mem_digits.mp all c List.mem_cons_self

theorem exists_digit_behind_point {text : List Char} {c : Char} (isDigit : c.isDigit)
    (member : c ∈ scanFraction text)
    : (scanFraction text).drop 1 ≠ [] := by
  unfold scanFraction at member ⊢
  split at member
  · rcases List.mem_cons.mp member with rfl | behind
    · cases isDigit
    · exact List.ne_nil_of_mem behind
  · cases member

/-- Every literal with a digit in its mantissa writes a number. -/
theorem exists_read {text : List Char} (written : text ∈ numeral.matches')
    : ∃ decimal, Decimal.read? text = some decimal := by
  obtain ⟨whole, own, rear, optional, rfl⟩ := Language.mem_mul.mp written
  obtain ⟨matched, c, member, isDigit⟩ := mem_mantissa_of_numeral own
  have same := (longestMatch_mantissa (whole ++ rear)).unique
    (longestMatch_of_apart (by decide) matched optional)
  obtain ⟨exponent, read⟩ := exists_readExponent optional
  rw [← same, scanMantissa, List.mem_append] at member
  unfold Decimal.read?
  dsimp only
  rw [if_neg, same, List.drop_left, read]
  · exact ⟨_, rfl⟩
  · intro empty
    rw [Bool.and_eq_true, List.isEmpty_iff, List.isEmpty_iff] at empty
    rcases member with before | behind
    · exact List.ne_nil_of_mem before empty.1
    · exact exists_digit_behind_point isDigit behind empty.2

/-- Where a literal begins, only a number that is not well formed or has a word glued to it is no
token.
-/
theorem exists_rejected_iff {c : Char} {rest : List Char} (start : startsNumber c rest)
    : let scan := scanNumber (c :: rest)
      (∃ problem, (Lexeme.first c rest).1 = .rejected problem)
      ↔ scan.wellFormed = false
        ∨ ∃ d, ((c :: rest).drop scan.text.length).head? = some d ∧ isIdentifierPart d := by
  intro scan
  have isNumber : Lexeme.first c rest = Lexeme.number (c :: rest) := if_pos start
  have written := scanNumber_mem_numeral start
  obtain ⟨left, parts⟩ := scanNumber_isPrefix (c :: rest)
  unfold scan
  rw [isNumber]
  generalize scanned : scanNumber (c :: rest) = scan at parts written ⊢
  obtain ⟨front, wellFormed⟩ := scan
  rw [← parts] at scanned ⊢
  rw [List.drop_left]
  by_cases glued : ∃ d, left.head? = some d ∧ isIdentifierPart d
  · obtain ⟨d, head, part⟩ := glued
    obtain ⟨problem, taken, found⟩ := Lexeme.number_of_glued scanned head part
    rw [found]
    exact iff_of_true ⟨problem, rfl⟩ (.inr ⟨d, head, part⟩)
  · rw [Lexeme.number_of_unglued scanned fun d head part => glued ⟨d, head, part⟩]
    cases wellFormed with
    | true =>
        obtain ⟨decimal, read⟩ := exists_read (written rfl)
        simpa [read] using glued
    | false => simp

/-- The scan for a number is a longest match. What it takes from a text is of ASCII. If the number
is well formed, it is the longest literal there. It is not well formed exactly where a literal
breaks off before the digits of its exponent, and is then what there is of that. Where a literal
begins, the number takes some text, and if it is well formed, its mantissa has a digit and it is
read. So a number is no token only if it is not well formed or a word is glued to it. Witness: each
part of a literal is taken as far as it goes, and begins with no letter of the part before.
-/
theorem scanNumber_longest_match (text : String)
    : let scan := scanNumber text.toList
      let length := byteLength scan.text
      let bytes := text.toByteArray.data.toList
      let taken := bytes.take length
      length ≤ text.utf8ByteSize
      ∧ (∀ byte ∈ taken, byte < 0x80)
      ∧ (scan.wellFormed = true → LongestMatch (storedMatches literal) bytes taken)
      ∧ (∀ front, BreaksOff bytes front ↔ scan.wellFormed = false ∧ front = taken)
      ∧ ∀ c rest, text.toList = c :: rest → startsNumber c rest
        → 0 < length
          ∧ (scan.wellFormed = true
            → taken ∈ storedMatches numeral
              ∧ ∃ decimal, Decimal.read? scan.text = some decimal)
          ∧ ((∃ problem, (Lexeme.first c rest).1 = .rejected problem)
            ↔ scan.wellFormed = false
              ∨ ∃ d,
                  (text.toList.drop scan.text.length).head? = some d
                  ∧ isIdentifierPart d) := by
  intro scan length bytes taken
  have stored : bytes = storedBytes text.toList := (storedBytes_toList text).symm
  obtain ⟨left, parts⟩ := scanNumber_isPrefix text.toList
  have joined := congrArg storedBytes parts
  have same : taken = storedBytes scan.text := by
    unfold taken length
    rw [stored, ← joined, storedBytes_append, ← length_storedBytes]
    exact List.take_left
  refine ⟨?_, ?_, ?_, ?_, ?_⟩
  · rw [utf8ByteSize_eq, ← parts, byteLength_append]
    exact Nat.le_add_right _ _
  · exact same ▸ lt_of_mem_storedBytes (ascii_scanNumber text.toList)
  · intro complete
    rw [stored, same]
    exact longestMatch_stored_iff.mpr ⟨_, rfl, longestMatch_literal complete⟩
  · intro front
    rw [stored, same]
    exact breaksOff_iff
  · intro c rest begins start
    have whole : scan = scanNumber (c :: rest) := congrArg scanNumber begins
    refine ⟨?_, ?_, ?_⟩
    · exact byteLength_pos (whole ▸ scanNumber_ne_nil start)
    · intro complete
      rw [whole] at complete
      have written := scanNumber_mem_numeral start complete
      rw [same, whole]
      exact ⟨⟨_, written, rfl⟩, exists_read written⟩
    · rw [begins, whole]
      exact exists_rejected_iff start

/-- A number without digits before its point, and one that breaks off behind the sign of its
exponent.
-/
theorem scanNumber_longest_match_fraction
    : let bytes := ".5E-3€".toByteArray.data.toList
      let other := "7.e+€".toByteArray.data.toList
      startsNumber '.' "5E-3€".toList
      ∧ (scanNumber ".5E-3€".toList).wellFormed = true
      ∧ LongestMatch (storedMatches literal) bytes (bytes.take 5)
      ∧ bytes.take 5 ∈ storedMatches numeral
      ∧ (∃ decimal, Decimal.read? ".5E-3".toList = some decimal)
      ∧ (scanNumber "7.e+€".toList).wellFormed = false
      ∧ BreaksOff other (other.take 4) := by
  intro bytes other
  have start : startsNumber '.' "5E-3€".toList := by decide +kernel
  have scanned : scanNumber ".5E-3€".toList = ⟨".5E-3".toList, true⟩ := by decide +kernel
  have broken : scanNumber "7.e+€".toList = ⟨"7.e+".toList, false⟩ := by decide +kernel
  obtain ⟨-, -, longest, -, begins⟩ := scanNumber_longest_match ".5E-3€"
  obtain ⟨-, -, -, breaksOff, -⟩ := scanNumber_longest_match "7.e+€"
  obtain ⟨-, written, -⟩ := begins '.' "5E-3€".toList (by decide +kernel) start
  rw [scanned] at longest written
  rw [broken] at breaksOff
  obtain ⟨numeral, read⟩ := written rfl
  exact ⟨start, by rw [scanned], longest rfl, numeral, read, by rw [broken],
    (breaksOff _).mpr ⟨rfl, rfl⟩⟩

end NumberPattern

end FormulaCompiler
