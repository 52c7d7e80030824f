import FormulaCompiler.Proofs.Lowercase
import FormulaCompiler.Proofs.Qualification.Lexemes

/-! Qualifying a formula that is qualified already. It goes to lower case again, which leaves just
the names of the vocabulary in another spelling, and it is cut into the same pieces, besides the
paths that were put in front. So nothing is left to be qualified.
-/

namespace FormulaCompiler

-----------------------------------------------------------------------------------------
-- Vocabularies in lower case
-----------------------------------------------------------------------------------------

namespace Vocabulary

/-- The vocabulary of the lower-case forms of the names. -/
def lowered (vocabulary : Vocabulary) : Vocabulary where
  names := vocabulary.names.map lowercase
  distinct := by
    rw [List.map_map, Function.comp_def]
    simpa only [lowercase_lowercase] using vocabulary.distinct

theorem lowercase_of_canonical? {vocabulary : Vocabulary} {word name : String}
    (known : vocabulary.canonical? word = some name)
    : lowercase name = word := by
  simpa using List.find?_some known

/-- A word is known in lower case as it is in the spelling of the names, and as it is written. -/
theorem canonical?_lowered (vocabulary : Vocabulary) (word : String)
    : vocabulary.lowered.canonical? word = (vocabulary.canonical? word).map fun _ => word := by
  have found : vocabulary.lowered.canonical? word
      = (vocabulary.canonical? word).map lowercase := by
    unfold canonical? lowered
    rw [List.find?_map, Function.comp_def]
    simp only [lowercase_lowercase]
  rw [found]
  refine Option.map_congr fun name known => ?_
  exact lowercase_of_canonical? known

theorem canonical?_eq_none {vocabulary : Vocabulary} {word : String}
    (unnamed : ∀ name ∈ vocabulary.names, lowercase name ≠ word)
    : vocabulary.canonical? word = none :=
  List.find?_eq_none.mpr fun name listed => by simpa using unnamed name listed

end Vocabulary

namespace Qualification

variable {vocabulary : Vocabulary}

theorem spelling_lowered_known {word : List Char} {name : String}
    (known : vocabulary.canonical? (String.ofList word) = some name) (qualified : Bool)
    : spelling vocabulary.lowered qualified word
      = if qualified then word else libraryPath (String.ofList word) := by
  rw [spelling, Vocabulary.canonical?_lowered, known, Option.map_some]
  cases qualified <;> simp

theorem spelling_lowered_unknown {word : List Char}
    (unknown : vocabulary.canonical? (String.ofList word) = none) (qualified : Bool)
    : spelling vocabulary.lowered qualified word = word := by
  rw [spelling, Vocabulary.canonical?_lowered, unknown, Option.map_none]

theorem spelling_lowered_qualified (word : List Char)
    : spelling vocabulary.lowered true word = word := by
  cases known : vocabulary.canonical? (String.ofList word) with
  | none => exact spelling_lowered_unknown known true
  | some name => exact (spelling_lowered_known known true).trans (if_pos rfl)

-----------------------------------------------------------------------------------------
-- The pieces of a text in lower case
-----------------------------------------------------------------------------------------

theorem isWord_of_mem_pieces {text word : List Char} (listed : .word word ∈ pieces text)
    : IsWord word := by
  fun_induction pieces text with
  | case1 => cases listed
  | case2 c rest piece ih =>
      rcases List.mem_cons.mp listed with first | later
      · unfold piece Piece.first at first
        split at first
        · cases first
        · split at first
          · rename_i letter
            cases first
            refine ⟨letter, List.forall_mem_cons.mpr ⟨isIdentifierPart_of_start letter, ?_⟩⟩
            exact List.all_eq_true.mp List.all_takeWhile
          · cases first
      · exact ih later

theorem mem_of_mem_pieces {text : List Char} {piece : Piece} {c : Char}
    (listed : piece ∈ pieces text) (member : c ∈ piece.text)
    : c ∈ text := by
  rw [← flatMap_pieces text]
  exact List.mem_flatMap.mpr ⟨piece, listed, member⟩

/-- Whether a piece is in lower case already. If it counts as a word, it is one. -/
structure Piece.IsSettled (piece : Piece) : Prop where
  lowered : ∀ c ∈ piece.text, IsLowered c
  isWord : ∀ word, piece = .word word → IsWord word

theorem isSettled_of_mem_pieces {formula : String} {piece : Piece}
    (listed : piece ∈ pieces (lowercase formula).toList)
    : piece.IsSettled where
  lowered := fun _ member => isLowered_of_mem_lowercase (mem_of_mem_pieces listed member)
  isWord := fun _ same => isWord_of_mem_pieces (same ▸ listed)

-----------------------------------------------------------------------------------------
-- What is written in lower case
-----------------------------------------------------------------------------------------

theorem flatMap_lowerChar_name {word : List Char} {name : String} (isWord : IsWord word)
    (known : vocabulary.canonical? (String.ofList word) = some name)
    : 'Σ' ∉ name.toList ∧ name.toList.flatMap lowerChar = word := by
  have form : lowercaseAfter [] name.toList = word := by
    have lowered := congrArg String.toList (Vocabulary.lowercase_of_canonical? known)
    rwa [lowercase, String.toList_ofList, String.toList_ofList] at lowered
  have noSigma : 'Σ' ∉ name.toList := by
    intro member
    rcases sigma_mem_lowercaseAfter [] member with small | final
    · exact absurd (isWord.2 _ (form ▸ small)) (by decide)
    · exact absurd (isWord.2 _ (form ▸ final)) (by decide)
  exact ⟨noSigma, lowercaseAfter_eq_flatMap [] noSigma ▸ form⟩

theorem flatMap_lowerChar_libraryPath (name : String)
    : (libraryPath name).flatMap lowerChar
      = Library.moduleName.toList ++ ':' :: ':' :: name.toList.flatMap lowerChar := by
  have module : Library.moduleName.toList.flatMap lowerChar = Library.moduleName.toList := by
    decide
  have colon : lowerChar ':' = [':'] := by decide
  rw [libraryPath, List.flatMap_append, List.flatMap_cons, List.flatMap_cons, module, colon]
  rfl

theorem flatMap_lowerChar_spelling (vocabulary : Vocabulary) {word : List Char}
    (settled : (Piece.word word).IsSettled) (qualified : Bool)
    : 'Σ' ∉ spelling vocabulary qualified word
      ∧ (spelling vocabulary qualified word).flatMap lowerChar
        = spelling vocabulary.lowered qualified word := by
  cases known : vocabulary.canonical? (String.ofList word) with
  | none =>
      rw [spelling_of_unknown known, spelling_lowered_unknown known]
      exact ⟨fun member => (settled.lowered _ member).1 rfl, flatMap_lowerChar settled.lowered⟩
  | some name =>
      obtain ⟨noSigma, same⟩ := flatMap_lowerChar_name (settled.isWord word rfl) known
      rw [spelling_lowered_known known, spelling, known]
      cases qualified with
      | true => exact ⟨noSigma, same⟩
      | false =>
          refine ⟨by simpa [libraryPath, Library.moduleName] using noSigma, ?_⟩
          refine (flatMap_lowerChar_libraryPath name).trans ?_
          rw [same, if_neg Bool.false_ne_true, libraryPath, String.toList_ofList]

/-- What is written for a formula goes to lower case as if the names were in lower case. -/
theorem flatMap_lowerChar_write (vocabulary : Vocabulary) {parts : List Piece}
    (settled : ∀ piece ∈ parts, piece.IsSettled) (colons : Nat)
    : 'Σ' ∉ write vocabulary colons parts
      ∧ (write vocabulary colons parts).flatMap lowerChar
        = write vocabulary.lowered colons parts := by
  induction parts generalizing colons with
  | nil => exact ⟨List.not_mem_nil, rfl⟩
  | cons piece rest ih =>
      rw [List.forall_mem_cons] at settled
      cases piece with
      | number text =>
          obtain ⟨noSigma, same⟩ := ih settled.2 0
          have lowered : ∀ c ∈ text, IsLowered c := settled.1.lowered
          rw [write, write, List.mem_append, not_or, List.flatMap_append,
            flatMap_lowerChar lowered, same]
          exact ⟨⟨fun member => (lowered _ member).1 rfl, noSigma⟩, rfl⟩
      | word text =>
          obtain ⟨noSigma, same⟩ := ih settled.2 0
          obtain ⟨plain, spelled⟩ :=
            flatMap_lowerChar_spelling vocabulary settled.1 (2 ≤ colons)
          rw [write, write, List.mem_append, not_or, List.flatMap_append, spelled, same]
          exact ⟨⟨plain, noSigma⟩, rfl⟩
      | other c =>
          obtain ⟨noSigma, same⟩ := ih settled.2 (if c = ':' then colons + 1 else 0)
          have lowered : IsLowered c := settled.1.lowered c List.mem_cons_self
          rw [write, write, List.mem_cons, not_or, List.flatMap_cons, lowered.2, same]
          exact ⟨⟨Ne.symm lowered.1, noSigma⟩, rfl⟩

theorem lowercase_qualify (formula : String)
    : (lowercase (qualify formula vocabulary .tokens)).toList
      = write vocabulary.lowered 0 (pieces (lowercase formula).toList) := by
  have settled : ∀ piece ∈ pieces (lowercase formula).toList, piece.IsSettled :=
    fun _ => isSettled_of_mem_pieces
  obtain ⟨noSigma, same⟩ := flatMap_lowerChar_write vocabulary settled 0
  rw [lowercase, String.toList_ofList, qualify, String.toList_ofList]
  exact (lowercaseAfter_eq_flatMap [] noSigma).trans same

-----------------------------------------------------------------------------------------
-- Cutting what is written
-----------------------------------------------------------------------------------------

/-- Whether what is written for a text with the names in lower case is written as the text is. -/
def Rewrites (vocabulary : Vocabulary) (text : List Char) : Prop :=
  ∀ colons, write vocabulary colons (pieces (write vocabulary.lowered colons (pieces text)))
    = write vocabulary colons (pieces text)

theorem rewrites_number {c : Char} {rest : List Char} (start : startsNumber c rest)
    (later : ∀ behind, behind.length < (c :: rest).length → Rewrites vocabulary behind)
    : Rewrites vocabulary (c :: rest) := by
  intro colons
  obtain ⟨more, behind, wellFormed, rfl, -, rescanned, restart, cut⟩ :=
    cut_number vocabulary.lowered start
  have shorter : behind.length < (c :: (more ++ behind)).length := by
    simp only [List.length_cons, List.length_append]
    omega
  have taken : (scanNumber (c :: (more ++ write vocabulary.lowered 0 (pieces behind)))).text
      = c :: more :=
    congrArg Scan.text rescanned
  have parts : c :: (more ++ write vocabulary.lowered 0 (pieces behind))
      = (scanNumber (c :: (more ++ write vocabulary.lowered 0 (pieces behind)))).text
        ++ write vocabulary.lowered 0 (pieces behind) := by
    rw [taken, List.cons_append]
  have again := pieces_number restart parts
  rw [cut, write, write, List.cons_append, again, taken, write, later behind shorter 0]

/-- A word is written as it was, unless the path to the library goes in front. Then the word is
qualified by that, and the name of the library is a word of its own, which stays.
-/
theorem rewrites_word (unknown : vocabulary.canonical? Library.moduleName = none)
    {text : List Char} (start : startsIdentifier text)
    (later : ∀ behind, behind.length < text.length → Rewrites vocabulary behind)
    : Rewrites vocabulary text := by
  intro colons
  obtain ⟨word, rest, rfl, isWord, ends⟩ := exists_word start
  have shorter : rest.length < (word ++ rest).length := by
    obtain ⟨c, letters, rfl, -⟩ :=
      Lexeme.ne_nil_of_startsIdentifier isWord.1
    simp
  have same := later rest shorter 0
  have ends' := notPart_write vocabulary.lowered Nat.zero_lt_two ends
  have stays (kept : spelling vocabulary.lowered (2 ≤ colons) word = word)
      : write vocabulary colons
          (pieces (write vocabulary.lowered colons (pieces (word ++ rest))))
        = write vocabulary colons (pieces (word ++ rest)) := by
    rw [pieces_word isWord ends, write, kept, pieces_word isWord ends', write, write, same]
  cases known : vocabulary.canonical? (String.ofList word) with
  | none => exact stays (spelling_lowered_unknown known _)
  | some name =>
      have spelled := spelling_lowered_known known (2 ≤ colons)
      by_cases qualified : 2 ≤ colons
      · exact stays (spelled.trans (if_pos (decide_eq_true qualified)))
      · have path : spelling vocabulary.lowered (2 ≤ colons) word
              ++ write vocabulary.lowered 0 (pieces rest)
            = Library.moduleName.toList
              ++ (colonned [word] ++ write vocabulary.lowered 0 (pieces rest)) := by
          rw [spelled, if_neg (by simpa using qualified), libraryPath, String.toList_ofList]
          simp
        have module : spelling vocabulary (2 ≤ colons) Library.moduleName.toList
            = Library.moduleName.toList :=
          spelling_of_unknown (by rwa [String.ofList_toList]) (2 ≤ colons)
        rw [pieces_word isWord ends, write, write, path,
          write_words isWord_moduleName (List.forall_mem_singleton.mpr isWord) ends', same,
          spelling_of_known known (Nat.not_le.mp qualified), module, List.map_singleton,
          spelling_of_qualified known]
        simp

theorem rewrites_symbol {c : Char} {rest : List Char} (noNumber : ¬startsNumber c rest)
    (noWord : ¬isIdentifierStart c) (later : Rewrites vocabulary rest)
    : Rewrites vocabulary (c :: rest) := by
  intro colons
  have renumber : ¬startsNumber c
      (write vocabulary.lowered (if c = ':' then colons + 1 else 0) (pieces rest)) := by
    by_cases colon : c = ':'
    · subst colon
      simp [startsNumber]
    · rwa [if_neg colon, startsNumber_write _ Nat.zero_lt_two]
  rw [pieces_other noNumber noWord, write, write, pieces_other renumber noWord, write, later]

theorem rewrites (unknown : vocabulary.canonical? Library.moduleName = none) (text : List Char)
    : Rewrites vocabulary text := by
  refine Lexeme.induction_on_first ?_ (fun _ _ => rewrites_number)
    (fun _ => rewrites_word unknown) (fun _ _ => rewrites_symbol) text
  intro colons
  rw [pieces_nil, write, write, pieces_nil, write]

/-- A qualified formula is not changed by qualifying it again, however malformed it is, unless a
name of the vocabulary is written like the library. Witness: in lower case, what was written
differs from the formula by the paths in front of names, so it is cut into the same pieces, and the
names are qualified by these paths.
-/
theorem qualify_qualify (vocabulary : Vocabulary)
    (unnamed : ∀ name ∈ vocabulary.names, lowercase name ≠ "math") (formula : String)
    : qualify (qualify formula vocabulary .tokens) vocabulary .tokens
      = qualify formula vocabulary .tokens := by
  have unknown : vocabulary.canonical? Library.moduleName = none :=
    Vocabulary.canonical?_eq_none unnamed
  have again := rewrites unknown (lowercase formula).toList 0
  rw [qualify, lowercase_qualify]
  exact congrArg String.ofList again

/-- Names that are glued to numbers, that stand behind one colon or two, and in capital letters. -/
theorem qualify_qualify_glued
    : let vocabulary := Vocabulary.ofNames ["sin", "PI", "E"]
      (∀ name ∈ vocabulary.names, lowercase name ≠ "math")
      ∧ qualify (qualify "2SIN:e ::x::Pi 1e+E" vocabulary .tokens) vocabulary .tokens
        = "2math::sin:math::E ::x::PI 1e+math::E" := by
  have unnamed : ∀ name ∈ (Vocabulary.ofNames ["sin", "PI", "E"]).names,
      lowercase name ≠ "math" := by
    decide +kernel
  refine ⟨unnamed, (qualify_qualify _ unnamed _).trans ?_⟩
  decide +kernel

end Qualification

end FormulaCompiler
