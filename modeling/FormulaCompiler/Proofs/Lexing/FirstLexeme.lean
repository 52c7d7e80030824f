import FormulaCompiler.Proofs.Lexing.Contents
import FormulaCompiler.Proofs.Lexing.NumberEnds
import FormulaCompiler.Proofs.Lexing.Paths

/-! The first lexeme of a text, by what the text begins with: a number, a path or a symbol.
-/

namespace FormulaCompiler.Lexeme

/-- What holds of all texts, by induction over the length and by what a text begins with. A number
or a path may leave any shorter text behind it.
-/
theorem induction_on_first {motive : List Char → Prop} (nil : motive [])
    (number
      : ∀ c rest, startsNumber c rest
        → (∀ behind, behind.length < (c :: rest).length → motive behind) → motive (c :: rest))
    (path
      : ∀ text, startsIdentifier text
        → (∀ behind, behind.length < text.length → motive behind) → motive text)
    (symbol
      : ∀ c rest, ¬startsNumber c rest → ¬isIdentifierStart c → motive rest → motive (c :: rest))
    (text : List Char)
    : motive text := by
  induction count : text.length using Nat.strongRecOn generalizing text with
  | ind count ih =>
      subst count
      have later (behind : List Char) (shorter : behind.length < text.length) : motive behind :=
        ih behind.length shorter behind rfl
      cases text with
      | nil => exact nil
      | cons c rest =>
          by_cases digit : startsNumber c rest
          · exact number c rest digit later
          · by_cases letter : isIdentifierStart c
            · exact path (c :: rest) letter later
            · exact symbol c rest digit letter (later rest (Nat.lt_succ_self _))

theorem contents_rejected {c : Char} {rest taken : List Char} {problem : Problem}
    (plain : ¬isSeparator c) (found : first c rest = (rejected problem, taken))
    : ∃ later, contents (c :: rest) = rejected problem :: later := by
  obtain ⟨behind, parts⟩ := first_isPrefix c rest
  rw [found] at parts
  exact ⟨_, contents_first plain found parts.symm⟩

/-- Only a character that is no part of a number or word separates lexemes. -/
theorem plain_of_isSeparator {c : Char} (separates : isSeparator c) (rest : List Char)
    : ¬startsNumber c rest ∧ ¬isIdentifierStart c ∧ c ≠ ':' := by
  rcases isSeparator_iff.mp separates with rfl | rfl | rfl | rfl <;>
    exact ⟨by simp [startsNumber], by decide, by decide⟩

theorem ofSymbol?_ne_name {c : Char} {token : Token} (found : Token.ofSymbol? c = some token)
    (path : String)
    : token ≠ .name path := by
  unfold Token.ofSymbol? at found
  split at found
  · cases found
    exact nofun
  · cases found
    exact nofun
  · cases found
    exact nofun
  · obtain ⟨op, -, rfl⟩ := Option.map_eq_some_iff.mp found
    exact nofun

-----------------------------------------------------------------------------------------
-- Numbers
-----------------------------------------------------------------------------------------

/-- No identifier goes on behind a number, unless one begins there. -/
theorem notPart_behind_number {front behind : List Char} {wellFormed : Bool}
    (scanned : scanNumber (front ++ behind) = ⟨front, wellFormed⟩)
    (unglued : ¬startsIdentifier behind)
    : ∀ c, behind.head? = some c → ¬isIdentifierPart c := by
  intro c head part
  obtain ⟨more, rfl⟩ := List.head?_eq_some_iff.mp head
  exact unglued (isIdentifierStart_of_part part (not_isDigit_behind_number scanned head))

/-- A number that no word is glued to is the same lexeme whatever it stands in front of. -/
theorem number_of_unglued {front rest : List Char} {wellFormed : Bool}
    (scanned : scanNumber (front ++ rest) = ⟨front, wellFormed⟩)
    (ends : ∀ c, rest.head? = some c → ¬isIdentifierPart c)
    : number (front ++ rest)
      = (if wellFormed then
          match Decimal.read? front with
          | some decimal => accepted (.number decimal.toFloat) (String.ofList front)
          | none => rejected (.malformedNumber (String.ofList front))
        else
          rejected (.malformedNumber (String.ofList front)), front) := by
  unfold number
  dsimp only
  rw [scanned, List.drop_left, takeWhile_part_eq_nil ends, List.append_nil]
  cases wellFormed with
  | false => rfl
  | true => cases Decimal.read? front <;> rfl

theorem number_of_glued {front rest : List Char} {wellFormed : Bool} {c : Char}
    (scanned : scanNumber (front ++ rest) = ⟨front, wellFormed⟩) (head : rest.head? = some c)
    (part : isIdentifierPart c)
    : ∃ problem taken, number (front ++ rest) = (rejected problem, taken) := by
  obtain ⟨more, rfl⟩ := List.head?_eq_some_iff.mp head
  unfold number
  dsimp only
  rw [scanned, List.drop_left, List.takeWhile_cons_of_pos part]
  cases wellFormed with
  | false => exact ⟨_, _, rfl⟩
  | true => exact ⟨_, _, rfl⟩

-----------------------------------------------------------------------------------------
-- Paths and symbols
-----------------------------------------------------------------------------------------

theorem ne_nil_of_startsIdentifier {text : List Char} (start : startsIdentifier text)
    : ∃ c rest, text = c :: rest ∧ isIdentifierStart c := by
  cases text with
  | nil => cases start
  | cons c rest => exact ⟨c, rest, rfl, start⟩

theorem plain_of_isIdentifierStart {c : Char} (letter : isIdentifierStart c) : ¬isSeparator c :=
  fun separates => (plain_of_isSeparator separates []).2.1 letter

theorem first_path {c : Char} {rest taken : List Char} {wellFormed : Bool}
    (letter : isIdentifierStart c) (scanned : scanPath (c :: rest) = ⟨taken, wellFormed⟩)
    : first c rest
      = (if wellFormed then accepted (.name (String.ofList taken)) (String.ofList taken)
        else rejected .danglingSeparator, taken) := by
  unfold first path
  rw [if_neg (not_startsNumber_of_isIdentifierStart letter rest), if_pos letter, scanned]

/-- The lexeme of a path, and the lexemes behind it. -/
theorem contents_path {text taken behind : List Char} {wellFormed : Bool}
    (start : startsIdentifier text) (scanned : scanPath text = ⟨taken, wellFormed⟩)
    (parts : text = taken ++ behind)
    : contents text
      = (if wellFormed then accepted (.name (String.ofList taken)) (String.ofList taken)
        else rejected .danglingSeparator) :: contents behind := by
  obtain ⟨c, rest, rfl, letter⟩ := ne_nil_of_startsIdentifier start
  exact contents_first (plain_of_isIdentifierStart letter) (first_path letter scanned) parts

theorem contents_danglingPath {text taken : List Char} (start : startsIdentifier text)
    (scanned : scanPath text = ⟨taken, false⟩)
    : ∃ later, contents text = rejected .danglingSeparator :: later := by
  obtain ⟨behind, parts⟩ := scanPath_isPrefix text
  rw [scanned] at parts
  exact ⟨_, contents_path start scanned parts.symm⟩

theorem contents_symbol {c : Char} {rest : List Char} (plain : ¬isSeparator c)
    (noNumber : ¬startsNumber c rest) (noWord : ¬isIdentifierStart c)
    : contents (c :: rest)
      = (match Token.ofSymbol? c with
        | some token => accepted token (String.singleton c)
        | none => rejected (.unexpectedCharacter c)) :: contents rest := by
  refine contents_first plain (((if_neg noNumber).trans (if_neg noWord)).trans ?_)
    List.singleton_append.symm
  cases Token.ofSymbol? c <;> rfl

end FormulaCompiler.Lexeme
