import FormulaCompiler.Proofs.NameTable
import FormulaCompiler.Proofs.Qualification.Runs
import FormulaCompiler.Proofs.Replacement

/-! Qualifying names wherever their letters stand, one name after the other. Where no name overlaps
with another and each stands alone in the formula, this comes to qualifying whole words only: after
each pass the formula is written as if the names so far were the whole vocabulary.
-/

namespace FormulaCompiler

namespace Qualification

theorem spelling_of_unqualified {vocabulary : Vocabulary} {word : List Char} {name : String}
    (known : vocabulary.canonical? (String.ofList word) = some name) {colons : Nat}
    (unqualified : colons < 2)
    : spelling vocabulary (2 ≤ colons) word = libraryPath name := by
  simp [spelling, known, Nat.not_le.mpr unqualified]

-----------------------------------------------------------------------------------------
-- One pass
-----------------------------------------------------------------------------------------

section

variable {known more : Vocabulary} {name : String}
  (extended : more.names = known.names ++ [name])

include extended

/-- With one name more, a word leads to where it did, or to the new name. -/
theorem canonical?_extended (word : String)
    : more.canonical? word
      = (known.canonical? word).or (if lowercase name = word then some name else none) := by
  simp [Vocabulary.canonical?, extended, List.find?_append, List.find?_singleton]

variable (isWord : IsWord (lowercase name).toList)
  (apart : ∀ other ∈ known.names, ¬(lowercase name).toList <:+: libraryPath other)

include isWord apart

/-- A pass over one word, which is known already, the new name, or neither of them. -/
theorem replaceAll_spelling {word : List Char} {colons : Nat}
    (alone
      : ∀ other ∈ more.names, (Piece.word word).LeavesAlone (lowercase other).toList colons)
    {rest : List Char} (ends : ∀ c, rest.head? = some c → ¬isIdentifierPart c)
    : replaceAll (lowercase name).toList (libraryPath name)
          (spelling known (2 ≤ colons) word ++ rest)
      = spelling more (2 ≤ colons) word
        ++ replaceAll (lowercase name).toList (libraryPath name) rest := by
  have leads := canonical?_extended extended (String.ofList word)
  have own : name ∈ more.names := by simp [extended]
  cases found : known.canonical? (String.ofList word) with
  | some other =>
      obtain ⟨listed, form⟩ := Vocabulary.canonical?_eq_some_iff.mp found
      have unqualified : colons < 2 := by
        refine (alone other (by simp [extended, listed]) ?_).2
        rw [form, String.toList_ofList]
        exact List.infix_refl _
      rw [found, Option.some_or] at leads
      rw [spelling_of_unqualified found unqualified, spelling_of_unqualified leads unqualified]
      exact replaceAll_absent isWord.2 ends (apart other listed)
  | none =>
      rw [found, Option.none_or] at leads
      rw [spelling_of_unknown found]
      by_cases form : lowercase name = String.ofList word
      · have same : (lowercase name).toList = word := by rw [form, String.toList_ofList]
        have unqualified : colons < 2 := (alone name own (same ▸ List.infix_refl _)).2
        rw [if_pos form] at leads
        rw [spelling_of_unqualified leads unqualified, ← same,
          replaceAll_occurrence isWord.ne_nil]
      · rw [if_neg form] at leads
        rw [spelling_of_unknown leads]
        refine replaceAll_absent isWord.2 ends fun occurs => form ?_
        obtain ⟨same, -⟩ := alone name own occurs
        rw [Piece.word.inj same, String.ofList_toList]

/-- A pass over all of a formula puts the new name to the names that are written already. By
induction over the text: neither a number nor the path to another name has the new one in it, and no
occurrence reaches over the end of a piece.
-/
theorem replaceAll_write_known {text : List Char} (unglued : Unglued (pieces text)) {colons : Nat}
    (alone : ∀ other ∈ more.names, AloneIn (lowercase other).toList colons (pieces text))
    : replaceAll (lowercase name).toList (libraryPath name) (write known colons (pieces text))
      = write more colons (pieces text) := by
  have own : name ∈ more.names := by simp [extended]
  induction text using Lexeme.induction_on_first generalizing colons with
  | nil =>
      rw [pieces_nil, write, write]
      exact replaceAll_nil isWord.ne_nil
  | number c rest start later =>
      obtain ⟨number, behind, wellFormed, rfl, scanned, -, -, cut⟩ := cut_number known start
      rw [cut] at unglued alone ⊢
      obtain ⟨noWord, unglued⟩ := unglued_number.mp unglued
      have ends := notPart_write known Nat.zero_lt_two
        (Lexeme.notPart_behind_number scanned noWord)
      have absent : ¬(lowercase name).toList <:+: c :: number := by
        intro occurs
        obtain ⟨same, -⟩ := (alone name own).1 occurs
        cases same
      rw [write, write, replaceAll_absent isWord.2 ends absent]
      refine congrArg _ (later behind ?_ unglued fun other listed => (alone other listed).2)
      simp only [List.length_cons, List.length_append]
      omega
  | path text start later =>
      obtain ⟨word, rest, rfl, wordIs, ends⟩ := exists_word start
      rw [pieces_word wordIs ends] at unglued alone ⊢
      have first := fun other listed => (alone other listed).1
      rw [write, write, replaceAll_spelling extended isWord apart first
        (notPart_write known Nat.zero_lt_two ends)]
      refine congrArg _ (later rest ?_ (gluedWords_word.mp unglued) fun other listed =>
        (alone other listed).2)
      rw [List.length_append]
      exact Nat.lt_add_of_pos_left (List.length_pos_iff.mpr wordIs.ne_nil)
  | symbol c rest noNumber noWord ih =>
      rw [pieces_other noNumber noWord] at unglued alone ⊢
      rw [write, write, replaceAll_cons (isWord.not_isPrefix_cons noWord _)]
      exact congrArg _ (ih (gluedWords_other.mp unglued) fun other listed => (alone other listed).2)

end

-----------------------------------------------------------------------------------------
-- All passes
-----------------------------------------------------------------------------------------

/-- No names, no changes. -/
theorem write_of_unnamed {vocabulary : Vocabulary} (unnamed : vocabulary.names = [])
    (colons : Nat) (parts : List Piece)
    : write vocabulary colons parts = parts.flatMap Piece.text := by
  induction parts generalizing colons with
  | nil => rfl
  | cons piece rest ih =>
      have unknown (word : String) : vocabulary.canonical? word = none := by
        rw [Vocabulary.canonical?, unnamed, List.find?_nil]
      cases piece with
      | number text | other c => exact congrArg _ (ih _)
      | word text =>
          rw [write, spelling_of_unknown (unknown _), ih]
          rfl

/-- Whether no two names of a vocabulary overlap: none stands, in lower case, in the path to another
one.
-/
def NoOverlap (vocabulary : Vocabulary) : Prop :=
  ∀ name ∈ vocabulary.names, ∀ other ∈ vocabulary.names, name ≠ other →
    ¬(lowercase name).toList <:+: libraryPath other

/-- By induction over the names that are left, behind those that are written already. -/
theorem foldl_replaceAll {vocabulary : Vocabulary} {text : List Char}
    (identifiers : ∀ name ∈ vocabulary.names, isIdentifier name)
    (apart : NoOverlap vocabulary) (unglued : Unglued (pieces text))
    (alone : ∀ name ∈ vocabulary.names, AloneIn (lowercase name).toList 0 (pieces text))
    {known : Vocabulary} {left : List String} (parts : known.names ++ left = vocabulary.names)
    : left.foldl (fun text name => replaceAll (lowercase name).toList (libraryPath name) text)
          (write known 0 (pieces text))
      = write vocabulary 0 (pieces text) := by
  induction left generalizing known with
  | nil =>
      have same : known = vocabulary := by
        cases known
        cases vocabulary
        simpa using parts
      rw [same, List.foldl_nil]
  | cons name rest ih =>
      have split : known.names ++ [name] ++ rest = vocabulary.names := by
        rw [List.append_assoc, List.singleton_append, parts]
      have front : known.names ++ [name] <+: vocabulary.names := ⟨rest, split⟩
      have distinct := (front.sublist.map lowercase).nodup vocabulary.distinct
      have listed : name ∈ vocabulary.names := front.subset (by simp)
      have others : ∀ other ∈ known.names, ¬(lowercase name).toList <:+: libraryPath other := by
        intro other member
        refine apart name listed other (front.subset (List.mem_append_left _ member)) ?_
        rintro rfl
        rw [List.map_append] at distinct
        exact (List.nodup_append.mp distinct).2.2 _ (List.mem_map_of_mem member) _
          List.mem_cons_self rfl
      obtain ⟨more, extended⟩ : ∃ more : Vocabulary, more.names = known.names ++ [name] :=
        ⟨⟨_, distinct⟩, rfl⟩
      have pass := replaceAll_write_known extended (isWord_lowercase (identifiers name listed))
        others unglued fun other member => alone other (front.subset (extended ▸ member))
      rw [List.foldl_cons, pass, ih (extended ▸ split)]

/-- Qualifying names wherever their letters stand comes to qualifying whole words, where the names
are identifiers that do not overlap, the formula is cut without an error, and wherever the letters
of a name stand, they are a whole identifier run with no double colon right before it. Witness:
after each pass the formula is written as by whole words with the names so far, since what a pass
inserts holds no other name and ends where its word did.
-/
theorem qualify_substring_eq_tokens (vocabulary : Vocabulary) (formula : String)
    (identifiers : ∀ name ∈ vocabulary.names, isIdentifier name)
    (apart : NoOverlap vocabulary)
    (clean : Diagnostic.hasErrors (tokenize (lowercase formula)).diagnostics = false)
    (alone
      : ∀ name ∈ vocabulary.names,
          StandsAlone (lowercase name).toList (lowercase formula).toList)
    : qualify formula vocabulary .substring = qualify formula vocabulary .tokens := by
  have accepted (problem : Problem)
      : Lexeme.rejected problem ∉ Lexeme.contents (lowercase formula).toList := by
    intro listed
    rw [(Lexeme.hasErrors_tokenize _).mpr ⟨problem, listed⟩] at clean
    cases clean
  have inPieces (name : String) (listed : name ∈ vocabulary.names)
      : AloneIn (lowercase name).toList 0 (pieces (lowercase formula).toList) :=
    (alone name listed).aloneIn (isWord_lowercase (identifiers name listed)).ne_nil
  obtain ⟨none, unnamed⟩ : ∃ none : Vocabulary, none.names = [] := ⟨⟨[], .nil⟩, rfl⟩
  have all : none.names ++ vocabulary.names = vocabulary.names := by
    rw [unnamed, List.nil_append]
  have passes := foldl_replaceAll identifiers apart (unglued_of_accepted accepted) inPieces all
  rw [write_of_unnamed unnamed, flatMap_pieces] at passes
  exact congrArg String.ofList passes

/-- Two constants and a function, of which the letters stand in no other place. -/
theorem qualify_substring_sin
    : let vocabulary := Vocabulary.ofNames ["sin", "PI", "E"]
      let formula := "Sin(2*Pi)+e"
      (∀ name ∈ vocabulary.names, isIdentifier name)
      ∧ NoOverlap vocabulary
      ∧ Diagnostic.hasErrors (tokenize (lowercase formula)).diagnostics = false
      ∧ (∀ name ∈ vocabulary.names,
          StandsAlone (lowercase name).toList (lowercase formula).toList)
      ∧ qualify formula vocabulary .substring = "math::sin(2*math::PI)+math::E" := by
  intro vocabulary formula
  have identifiers : ∀ name ∈ vocabulary.names, isIdentifier name := by decide +kernel
  have apart : NoOverlap vocabulary := by
    unfold NoOverlap
    decide +kernel
  have clean : Diagnostic.hasErrors (tokenize (lowercase formula)).diagnostics = false := by
    decide +kernel
  have alone : ∀ name ∈ vocabulary.names,
      StandsAlone (lowercase name).toList (lowercase formula).toList := by
    intro name listed
    refine standsAlone_of_lt (isWord_lowercase (identifiers name listed)).ne_nil ?_
    revert name
    decide +kernel
  refine ⟨identifiers, apart, clean, alone, ?_⟩
  rw [qualify_substring_eq_tokens vocabulary formula identifiers apart clean alone]
  decide +kernel

end Qualification

end FormulaCompiler
