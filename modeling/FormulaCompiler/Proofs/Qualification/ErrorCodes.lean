import FormulaCompiler.Proofs.LibraryNames
import FormulaCompiler.Proofs.Lexing.ErrorCodes
import FormulaCompiler.Proofs.Qualification.Lexemes

/-! What qualifying a formula does to the errors of cutting it. None of them gets lost, but a name
that is glued to a number gets a path in front all the same. The number then takes only the name of
the library with it, and the double colon behind that is left over.
-/

namespace FormulaCompiler.Qualification

open Lexeme

-----------------------------------------------------------------------------------------
-- Words that are glued to numbers
-----------------------------------------------------------------------------------------

/-- Whether every word that is glued to a number is allowed before what stands behind it. -/
def GluedWords (allowed : List Char → List Piece → Prop) (parts : List Piece) : Prop :=
  ∀ number word rest, .number number :: .word word :: rest <:+ parts → allowed word rest

section

variable {allowed : List Char → List Piece → Prop} {parts : List Piece}

theorem gluedWords_nil : GluedWords allowed [] := by
  simp [GluedWords]

theorem gluedWords_cons {piece : Piece}
    : GluedWords allowed (piece :: parts)
      ↔ (∀ number word rest, .number number :: .word word :: rest = piece :: parts
          → allowed word rest)
        ∧ GluedWords allowed parts := by
  simp only [GluedWords, List.suffix_cons_iff, or_imp, forall_and]

@[simp] theorem gluedWords_word {word : List Char}
    : GluedWords allowed (.word word :: parts) ↔ GluedWords allowed parts := by
  simp [gluedWords_cons]

@[simp] theorem gluedWords_other {c : Char}
    : GluedWords allowed (.other c :: parts) ↔ GluedWords allowed parts := by
  simp [gluedWords_cons]

theorem gluedWords_number_word {number word : List Char}
    : GluedWords allowed (.number number :: .word word :: parts)
      ↔ allowed word parts ∧ GluedWords allowed parts := by
  rw [gluedWords_cons, gluedWords_word]
  refine and_congr_left fun _ => ⟨fun glued => glued number word parts rfl, ?_⟩
  rintro one _ _ _ ⟨⟩
  exact one

theorem gluedWords_number {number : List Char}
    (unglued : ∀ word rest, parts ≠ .word word :: rest)
    : GluedWords allowed (.number number :: parts) ↔ GluedWords allowed parts := by
  refine gluedWords_cons.trans (and_iff_right ?_)
  rintro _ word rest ⟨⟩
  exact absurd rfl (unglued word rest)

theorem gluedWords_words {first : List Char} {words : List (List Char)} {rest : List Char}
    (word : IsWord first) (more : ∀ word ∈ words, IsWord word)
    (ends : ∀ c, rest.head? = some c → ¬isIdentifierPart c)
    : GluedWords allowed (pieces (first ++ (colonned words ++ rest)))
      ↔ GluedWords allowed (pieces rest) := by
  induction words generalizing first with
  | nil => rw [colonned_nil, List.nil_append, pieces_word word ends, gluedWords_word]
  | cons second words ih =>
      rw [List.forall_mem_cons] at more
      simp only [colonned_cons, List.cons_append, List.append_assoc]
      rw [pieces_word word not_isIdentifierPart_head_colon]
      simp only [pieces_colon, gluedWords_word, gluedWords_other]
      exact ih more.1 more.2

end

-----------------------------------------------------------------------------------------
-- Names that are glued to numbers
-----------------------------------------------------------------------------------------

/-- Whether pieces go on with a double colon and a word, as the rest of a path does. -/
def Joined (parts : List Piece) : Prop :=
  ∃ word rest, parts = .other ':' :: .other ':' :: .word word :: rest

/-- Whether no number has a name of the vocabulary glued to it. Where a path goes on behind such a
name it does no harm, as the number and the double colon are errors there anyway.
-/
def Spares (vocabulary : Vocabulary) (parts : List Piece) : Prop :=
  ∀ number word rest, .number number :: .word word :: rest <:+ parts
    → (vocabulary.canonical? (String.ofList word)).isSome → Joined rest

variable {vocabulary : Vocabulary}

theorem spares_iff {parts : List Piece}
    : Spares vocabulary parts
      ↔ GluedWords (fun word rest =>
          (vocabulary.canonical? (String.ofList word)).isSome → Joined rest) parts :=
  Iff.rfl

/-- A word is the first piece exactly where the text begins with one. -/
theorem exists_pieces_eq_word {text : List Char}
    : (∃ word rest, pieces text = .word word :: rest) ↔ startsIdentifier text := by
  constructor
  · rintro ⟨word, rest, cut⟩
    cases text with
    | nil => simp at cut
    | cons c text =>
        rw [pieces] at cut
        obtain ⟨found, -⟩ := List.cons.inj cut
        unfold Piece.first at found
        split at found
        · cases found
        · split at found
          · assumption
          · cases found
  · intro start
    obtain ⟨word, rest, rfl, isWord, ends⟩ := exists_word start
    exact ⟨word, _, pieces_word isWord ends⟩

theorem joined_pieces_iff {text : List Char}
    : Joined (pieces text) ↔ ∃ next, text = ':' :: ':' :: next ∧ startsIdentifier next := by
  constructor
  · rintro ⟨word, rest, cut⟩
    have parts := flatMap_pieces text
    rw [cut] at parts
    subst parts
    simp only [List.flatMap_cons, Piece.text, List.cons_append, List.nil_append, pieces_colon,
      List.cons.injEq, true_and] at cut ⊢
    exact ⟨_, rfl, exists_pieces_eq_word.mp ⟨_, _, cut⟩⟩
  · rintro ⟨next, rfl, start⟩
    obtain ⟨word, rest, cut⟩ := exists_pieces_eq_word.mpr start
    exact ⟨word, rest, by rw [pieces_colon, pieces_colon, cut]⟩

-----------------------------------------------------------------------------------------
-- Error codes before and after
-----------------------------------------------------------------------------------------

/-- Whether no code gets lost, and codes are added exactly where (unchanged) does not hold. -/
structure Extends (before after : List String) (unchanged : Prop) : Prop where
  sublist : before.Sublist after
  eq_iff : before = after ↔ unchanged

namespace Extends

variable {before after : List String} {unchanged : Prop}

theorem append (front : List String) (codes : Extends before after unchanged)
    : Extends (front ++ before) (front ++ after) unchanged :=
  ⟨codes.sublist.append_left front, List.append_right_inj front |>.trans codes.eq_iff⟩

theorem add (code : String) (codes : Extends before after unchanged)
    : Extends before (code :: after) False := by
  refine ⟨codes.sublist.cons code, iff_false_intro ?_⟩
  rintro rfl
  exact absurd codes.sublist.length_le (Nat.not_succ_le_self _)

end Extends

/-- How the codes of a text go on in what is written for it, whatever number of colons is before. -/
def Preserves (vocabulary : Vocabulary) (text : List Char) : Prop :=
  ∀ colons, Extends (errorCodes text) (errorCodes (write vocabulary colons (pieces text)))
    (Spares vocabulary (pieces text))

/-- A character that is a lexeme by itself is the same lexeme in both texts. -/
theorem preserves_symbol {c : Char} {rest : List Char} (noNumber : ¬startsNumber c rest)
    (noWord : ¬isIdentifierStart c) (later : Preserves vocabulary rest)
    : Preserves vocabulary (c :: rest) := by
  intro colons
  rw [pieces_other noNumber noWord, write, spares_iff, gluedWords_other]
  by_cases colon : c = ':'
  · subst colon
    rw [errorCodes_colon, errorCodes_colon]
    exact (later _).append ["CF0001"]
  · rw [if_neg colon]
    by_cases separates : isSeparator c
    · rw [errorCodes_separator separates, errorCodes_separator separates]
      exact later 0
    · have renumber : ¬startsNumber c (write vocabulary 0 (pieces rest)) := by
        rwa [startsNumber_write vocabulary Nat.zero_lt_two]
      rw [errorCodes_symbol separates noNumber noWord,
        errorCodes_symbol separates renumber noWord]
      exact (later 0).append _

section

variable (identifiers : ∀ name ∈ vocabulary.names, isIdentifier name)

include identifiers

/-- What is written for a path is a path of as many words, or of one more. -/
theorem exists_written_words {first : List Char} {words : List (List Char)} {rest : List Char}
    (word : IsWord first) (more : ∀ word ∈ words, IsWord word)
    (ends : ∀ c, rest.head? = some c → ¬isIdentifierPart c) (colons : Nat)
    : ∃ front others, IsWord front ∧ (∀ word ∈ others, IsWord word)
        ∧ write vocabulary colons (pieces (first ++ (colonned words ++ rest)))
          = front ++ (colonned others ++ write vocabulary 0 (pieces rest)) := by
  obtain ⟨start, others⟩ := isWord_qualifiedWords identifiers word more
  rw [write_words word more ends]
  cases decide (2 ≤ colons) with
  | true =>
      refine ⟨_, _, isWord_spelling identifiers word, ?_, rfl⟩
      intro respelled member
      obtain ⟨old, listed, rfl⟩ := List.mem_map.mp member
      exact isWord_spelling identifiers (more old listed)
  | false =>
      refine ⟨_, _, start, others, ?_⟩
      rw [← List.append_assoc, ← List.append_assoc, ← qualifiedPath_eq]
      rfl

/-- A path is one path in both texts, complete or left dangling. -/
theorem preserves_path {text : List Char} (start : startsIdentifier text)
    (later : ∀ behind, behind.length < text.length → Preserves vocabulary behind)
    : Preserves vocabulary text := by
  intro colons
  obtain ⟨first, words, rest, rfl, word, more, ends⟩ := exists_words text start
  obtain ⟨front, others, frontWord, otherWords, written⟩ :=
    exists_written_words identifiers word more ends.notPart colons
  obtain ⟨c, letters, taken, -⟩ := ne_nil_of_startsIdentifier word.1
  have shorter : rest.length < (first ++ (colonned words ++ rest)).length := by
    simp only [taken, List.length_append, List.length_cons]
    omega
  rw [written, spares_iff, gluedWords_words word more ends.notPart]
  rcases ends.scanPath_eq with ⟨complete, -⟩ | ⟨-, next, rfl⟩
  · rw [errorCodes_path word more complete,
      errorCodes_path frontWord otherWords ((scanPath_write ends).trans complete)]
    exact later rest shorter 0
  · have noStart := ends.notJoined next rfl
    have left : Preserves vocabulary next := by
      refine later next (Nat.lt_trans ?_ shorter)
      simp only [List.length_cons]
      omega
    simp only [pieces_colon, write, gluedWords_other, if_pos]
    rw [errorCodes_danglingPath word more noStart,
      errorCodes_danglingPath frontWord otherWords (startsIdentifier_write noStart 2)]
    exact (left 2).append ["CF0001"]

theorem startsIdentifier_write_qualified {next : List Char} (start : startsIdentifier next)
    : startsIdentifier (write vocabulary 2 (pieces next)) := by
  obtain ⟨word, rest, rfl, isWord, ends⟩ := exists_word start
  rw [pieces_word isWord ends, write]
  exact startsIdentifier_append (isWord_spelling identifiers isWord).1 _

/-- The codes behind a name that is left over from a path to the library: those of the rest, where
the rest goes on with the path, and otherwise one or two more.
-/
theorem extends_leftName {name rest : List Char} (isWord : IsWord name)
    (ends : ∀ c, rest.head? = some c → ¬isIdentifierPart c)
    (later : ∀ behind, behind.length ≤ rest.length → Preserves vocabulary behind)
    : Extends (errorCodes rest)
        ("CF0001" :: "CF0001" :: errorCodes (name ++ write vocabulary 0 (pieces rest)))
        (Joined (pieces rest) ∧ Spares vocabulary (pieces rest)) := by
  by_cases joined : Joined (pieces rest)
  · rw [and_iff_right joined]
    obtain ⟨next, rfl, start⟩ := joined_pieces_iff.mp joined
    have left : Preserves vocabulary next := by
      apply later
      simp only [List.length_cons]
      omega
    simp only [pieces_colon, write, if_pos, spares_iff, gluedWords_other, errorCodes_colon]
    rw [errorCodes_joined isWord (startsIdentifier_write_qualified identifiers start)]
    exact (left 2).append ["CF0001", "CF0001"]
  · have pathEnds : EndsPath rest :=
      ⟨ends, fun next same start => joined (joined_pieces_iff.mpr ⟨next, same, start⟩)⟩
    have none : (Joined (pieces rest) ∧ Spares vocabulary (pieces rest)) = False :=
      eq_false fun both => joined both.1
    have alone : ∀ other ∈ ([] : List (List Char)), IsWord other := List.forall_mem_nil _
    rw [none]
    rcases pathEnds.scanPath_eq with ⟨complete, -⟩ | ⟨-, next, rfl⟩
    · have same
          : errorCodes (name ++ write vocabulary 0 (pieces rest))
            = errorCodes (write vocabulary 0 (pieces rest)) :=
        errorCodes_path isWord alone ((scanPath_write pathEnds).trans complete)
      rw [same]
      exact ((later rest (Nat.le_refl _) 0).add "CF0001").add "CF0001"
    · have noStart := pathEnds.notJoined next rfl
      have left : Preserves vocabulary next := by
        apply later
        simp only [List.length_cons]
        omega
      have same
          : errorCodes (name ++ ':' :: ':' :: write vocabulary 2 (pieces next))
            = "CF0001" :: errorCodes (write vocabulary 2 (pieces next)) :=
        errorCodes_danglingPath isWord alone (startsIdentifier_write noStart 2)
      simp only [pieces_colon, write, if_pos, errorCodes_colon]
      rw [same]
      exact ((left 2).add "CF0001").append ["CF0001", "CF0001"]

/-- A number with a word glued to it is one error in both texts. A known name gets a path in front,
however, and then only the name of the library is glued to the number.
-/
theorem extends_gluedNumber {c : Char} {more word rest : List Char} {wellFormed : Bool}
    (isWord : IsWord word) (ends : ∀ d, rest.head? = some d → ¬isIdentifierPart d)
    (start : startsNumber c (more ++ (word ++ rest)))
    (scanned : scanNumber (c :: more ++ (word ++ rest)) = ⟨c :: more, wellFormed⟩)
    (restart : startsNumber c (more ++ write vocabulary 0 (pieces (word ++ rest))))
    (rescanned
      : scanNumber (c :: more ++ write vocabulary 0 (pieces (word ++ rest)))
        = ⟨c :: more, wellFormed⟩)
    (later : ∀ behind, behind.length ≤ rest.length → Preserves vocabulary behind)
    : Extends (errorCodes (c :: (more ++ (word ++ rest))))
        (errorCodes (c :: (more ++ write vocabulary 0 (pieces (word ++ rest)))))
        (Spares vocabulary (.number (c :: more) :: pieces (word ++ rest))) := by
  rw [pieces_word isWord ends, write] at restart rescanned ⊢
  rw [spares_iff, gluedWords_number_word, errorCodes_gluedNumber start scanned isWord ends]
  cases known : vocabulary.canonical? (String.ofList word) with
  | none =>
      rw [spelling_of_unknown known] at restart rescanned ⊢
      have reends := notPart_write vocabulary Nat.zero_lt_two ends
      have noName : (none : Option String).isSome → Joined (pieces rest) := by simp
      rw [errorCodes_gluedNumber restart rescanned isWord reends, and_iff_right noName]
      exact (later rest (Nat.le_refl _) 0).append ["CF0002"]
  | some name =>
      rw [spelling_of_known known Nat.zero_lt_two] at restart rescanned ⊢
      have library : IsWord Library.moduleName.toList := isWord_iff_isIdentifier.mpr (by decide)
      rw [errorCodes_gluedNumber restart rescanned library not_isIdentifierPart_head_colon,
        errorCodes_colon, errorCodes_colon, imp_iff_right Option.isSome_some]
      have nameWord := isWord_of_canonical? identifiers known
      exact (extends_leftName identifiers nameWord ends later).append ["CF0002"]

/-- A number is the same lexeme in both texts, up to what is glued to it. -/
theorem preserves_number {c : Char} {rest : List Char} (start : startsNumber c rest)
    (later : ∀ behind, behind.length < (c :: rest).length → Preserves vocabulary behind)
    : Preserves vocabulary (c :: rest) := by
  intro colons
  obtain ⟨more, behind, wellFormed, rfl, scanned, rescanned, restart, cut⟩ :=
    cut_number vocabulary start
  rw [cut, write, List.cons_append]
  by_cases glued : startsIdentifier behind
  · obtain ⟨word, rest, rfl, isWord, ends⟩ := exists_word glued
    refine extends_gluedNumber identifiers isWord ends start scanned restart rescanned ?_
    intro behind short
    apply later
    simp only [List.length_cons, List.length_append]
    omega
  · have ends := notPart_behind_number scanned glued
    have unglued : ∀ word rest, pieces behind ≠ .word word :: rest :=
      fun word rest same => glued (exists_pieces_eq_word.mp ⟨word, rest, same⟩)
    have shorter : behind.length < (c :: (more ++ behind)).length := by
      simp only [List.length_cons, List.length_append]
      omega
    have reends := notPart_write vocabulary Nat.zero_lt_two ends
    rw [errorCodes_number start scanned ends, errorCodes_number restart rescanned reends,
      spares_iff, gluedWords_number unglued]
    exact (later behind shorter 0).append _

/-- No code of a text gets lost in what is written for it, whatever the text begins with. -/
theorem preserves (text : List Char) : Preserves vocabulary text := by
  refine induction_on_first ?_ (fun _ _ => preserves_number identifiers)
    (fun _ => preserves_path identifiers) (fun _ _ => preserves_symbol) text
  intro colons
  rw [pieces_nil, write, errorCodes_nil]
  exact ⟨List.Sublist.refl _, iff_of_true rfl gluedWords_nil⟩

end

/-- Qualifying a formula keeps the codes of all errors of cutting it, in their order. Codes are
added exactly if a name of the library is glued to a number and no path goes on behind that name.
-/
theorem lexicalErrorCodes_qualify (formula : String)
    : (lexicalErrorCodes (lowercase formula)).Sublist
        (lexicalErrorCodes (qualify formula .standard .tokens))
      ∧ (lexicalErrorCodes (lowercase formula)
          = lexicalErrorCodes (qualify formula .standard .tokens)
        ↔ Spares .standard (pieces (lowercase formula).toList)) := by
  have codes := preserves Library.isIdentifier_standard (lowercase formula).toList 0
  rw [lexicalErrorCodes_eq, lexicalErrorCodes_eq, qualify, String.toList_ofList]
  exact ⟨codes.sublist, codes.eq_iff⟩

/-- Two colons that are not in the formula become errors of it. -/
theorem lexicalErrorCodes_two_pi
    : lexicalErrorCodes (lowercase "2pi") = ["CF0002"]
      ∧ lexicalErrorCodes (qualify "2pi" .standard .tokens) = ["CF0002", "CF0001", "CF0001"] := by
  decide +kernel

end FormulaCompiler.Qualification
