import FormulaCompiler.Proofs.Qualification.Repetition
import FormulaCompiler.Proofs.Replacement

/-! What qualifying adds to a formula can be taken away again. In a formula without colons, every
double colon of what is written ends a path to the library.
-/

namespace FormulaCompiler.Qualification

variable {vocabulary : Vocabulary}

/-- A piece of a formula with known names in their own spelling, but without the path to them. -/
def Piece.respelled (vocabulary : Vocabulary) : Piece → List Char
  | .word text => spelling vocabulary true text
  | piece => piece.text

theorem colon_notMem_spelling {word : List Char} (isWord : IsWord word)
    : ':' ∉ spelling vocabulary true word := by
  cases known : vocabulary.canonical? (String.ofList word) with
  | none =>
      rw [spelling_of_unknown known]
      exact fun member => not_isIdentifierPart_colon (isWord.2 _ member)
  | some name =>
      obtain ⟨-, form⟩ := flatMap_lowerChar_name isWord known
      rw [spelling_of_qualified known]
      intro member
      have lowered : ':' ∈ name.toList.flatMap lowerChar :=
        List.mem_flatMap.mpr ⟨':', member, by decide⟩
      exact not_isIdentifierPart_colon (isWord.2 _ (form ▸ lowered))

/-- Taking away the paths to the library leaves the names, by induction over the pieces. What stands
in front of them has no colon, and neither has a name that is put behind it.
-/
theorem replaceAll_write (vocabulary : Vocabulary) {parts : List Piece}
    (settled : ∀ piece ∈ parts, piece.IsSettled)
    (noColon : ∀ piece ∈ parts, ':' ∉ piece.text) {front : List Char} (inFront : ':' ∉ front)
    : replaceAll "math::".toList [] (front ++ write vocabulary 0 parts)
      = front ++ parts.flatMap (Piece.respelled vocabulary) := by
  have pattern : "math::".toList = "math".toList ++ ':' :: [':'] := rfl
  have inKey : ':' ∉ "math".toList := by decide
  induction parts generalizing front with
  | nil =>
      rw [write, List.flatMap_nil, List.append_nil, pattern]
      exact replaceAll_unmarked inFront
  | cons piece rest ih =>
      rw [List.forall_mem_cons] at settled noColon
      have later {text : List Char} (plain : ':' ∉ text)
          : replaceAll "math::".toList [] (front ++ (text ++ write vocabulary 0 rest))
            = front ++ (text ++ rest.flatMap (Piece.respelled vocabulary)) := by
        have both : ':' ∉ front ++ text := by simp [inFront, plain]
        rw [← List.append_assoc, ih settled.2 noColon.2 both, List.append_assoc]
      rw [List.flatMap_cons]
      cases piece with
      | number text => exact later noColon.1
      | other c =>
          have plain : c ≠ ':' := fun same => noColon.1 (List.mem_singleton.mpr same.symm)
          rw [write, if_neg plain]
          exact later noColon.1
      | word text =>
          have isWord := settled.1.isWord text rfl
          cases known : vocabulary.canonical? (String.ofList text) with
          | none =>
              rw [write, Piece.respelled, spelling_of_unknown known, spelling_of_unknown known]
              exact later noColon.1
          | some name =>
              have spelled := spelling_of_qualified known
              have plain : ':' ∉ name.toList := spelled ▸ colon_notMem_spelling isWord
              have path : spelling vocabulary (2 ≤ 0) text ++ write vocabulary 0 rest
                  = "math".toList ++ ':' :: [':'] ++ (name.toList ++ write vocabulary 0 rest) :=
                spelling_of_known known Nat.zero_lt_two _
              rw [write, Piece.respelled, spelled, path, pattern,
                replaceAll_marked inKey inFront, ← pattern, ih settled.2 noColon.2 plain]
              rfl

theorem flatMap_lowerChar_respelled (vocabulary : Vocabulary) {piece : Piece}
    (settled : piece.IsSettled)
    : 'Σ' ∉ piece.respelled vocabulary
      ∧ (piece.respelled vocabulary).flatMap lowerChar = piece.text := by
  have plain : 'Σ' ∉ piece.text := fun member => (settled.lowered _ member).1 rfl
  cases piece with
  | number text | other c => exact ⟨plain, flatMap_lowerChar settled.lowered⟩
  | word text =>
      obtain ⟨noSigma, same⟩ := flatMap_lowerChar_spelling vocabulary settled true
      exact ⟨noSigma, same.trans (spelling_lowered_qualified text)⟩

theorem flatMap_lowerChar_flatMap_respelled (vocabulary : Vocabulary) {parts : List Piece}
    (settled : ∀ piece ∈ parts, piece.IsSettled)
    : 'Σ' ∉ parts.flatMap (Piece.respelled vocabulary)
      ∧ (parts.flatMap (Piece.respelled vocabulary)).flatMap lowerChar
        = parts.flatMap Piece.text := by
  constructor
  · intro member
    obtain ⟨piece, listed, own⟩ := List.mem_flatMap.mp member
    exact (flatMap_lowerChar_respelled vocabulary (settled piece listed)).1 own
  · rw [List.flatMap_assoc]
    refine List.flatMap_congr fun piece listed => ?_
    exact (flatMap_lowerChar_respelled vocabulary (settled piece listed)).2

/-- Taking the paths to the library away from a qualified formula without colons, and going to lower
case, gives the formula in lower case: qualifying drops, repeats and moves nothing. Witness: each
colon that is written ends the path in front of a known name, and a name goes to lower case as the
word that it was written for.
-/
theorem lowercase_replaceAll_qualify (vocabulary : Vocabulary) (formula : String)
    (noColon : ':' ∉ formula.toList)
    : lowercase (String.ofList
          (replaceAll "math::".toList [] (qualify formula vocabulary .tokens).toList))
      = lowercase formula := by
  have settled : ∀ piece ∈ pieces (lowercase formula).toList, piece.IsSettled :=
    fun _ => isSettled_of_mem_pieces
  have unmarked : ∀ piece ∈ pieces (lowercase formula).toList, ':' ∉ piece.text := by
    intro piece listed member
    have colon := mem_of_mem_pieces listed member
    rw [lowercase, String.toList_ofList] at colon
    exact noColon (colon_mem_of_mem_lowercaseAfter colon)
  have removed := replaceAll_write vocabulary settled unmarked List.not_mem_nil
  obtain ⟨noSigma, same⟩ := flatMap_lowerChar_flatMap_respelled vocabulary settled
  have written : (qualify formula vocabulary .tokens).toList
      = write vocabulary 0 (pieces (lowercase formula).toList) := by
    rw [qualify, String.toList_ofList, byTokens]
  rw [List.nil_append, List.nil_append] at removed
  rw [written, removed, lowercase, String.toList_ofList, lowercaseAfter_eq_flatMap [] noSigma, same,
    flatMap_pieces, String.ofList_toList]

/-- A name that is written like the library and glued to a number, and one with a letter that is
not of ASCII.
-/
theorem lowercase_replaceAll_qualify_math
    : let vocabulary := Vocabulary.ofNames ["MATH", "\u212A", "math", "a b"]
      ':' ∉ "2Math(K)+Maths".toList
      ∧ qualify "2Math(K)+Maths" vocabulary .tokens = "2math::MATH(math::\u212A)+maths"
      ∧ lowercase (String.ofList
            (replaceAll "math::".toList [] "2math::MATH(math::\u212A)+maths".toList))
        = lowercase "2Math(K)+Maths" := by
  intro vocabulary
  have noColon : ':' ∉ "2Math(K)+Maths".toList := by decide
  have written : qualify "2Math(K)+Maths" vocabulary .tokens
      = "2math::MATH(math::\u212A)+maths" := by
    decide +kernel
  have recovered := lowercase_replaceAll_qualify vocabulary "2Math(K)+Maths" noColon
  rw [written] at recovered
  exact ⟨noColon, written, recovered⟩

end FormulaCompiler.Qualification
