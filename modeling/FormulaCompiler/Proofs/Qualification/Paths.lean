import FormulaCompiler.Proofs.Qualification.Writing

/-! A path is written as one path again. Its words are respelled one by one, and the path to the
library goes in front where the first of them is in the vocabulary.
-/

namespace FormulaCompiler.Qualification

/-- The text that is written for the path of these words. -/
def qualifiedPath (vocabulary : Vocabulary) (first : List Char) (words : List (List Char))
    : List Char :=
  spelling vocabulary false first ++ colonned (words.map (spelling vocabulary true))

/-- The words of what is written: a known name in front gets the name of the library before it. -/
def qualifiedWords (vocabulary : Vocabulary) (first : List Char) (words : List (List Char))
    : List Char × List (List Char) :=
  let others := words.map (spelling vocabulary true)
  match vocabulary.canonical? (String.ofList first) with
  | some name => (Library.moduleName.toList, name.toList :: others)
  | none => (first, others)

/-- Whether a path is written as another one. -/
def Qualifies (vocabulary : Vocabulary) (path other : String) : Prop :=
  ∃ first words, IsWord first ∧ (∀ word ∈ words, IsWord word)
    ∧ path = String.ofList (first ++ colonned words)
    ∧ other = String.ofList (qualifiedPath vocabulary first words)

variable {vocabulary : Vocabulary}

theorem isWord_moduleName : IsWord Library.moduleName.toList :=
  isWord_iff_isIdentifier.mpr (by decide)

theorem pieces_colon (rest : List Char) : pieces (':' :: rest) = .other ':' :: pieces rest :=
  pieces_other (by simp [startsNumber]) (by decide)

theorem write_words {first : List Char} {words : List (List Char)} {rest : List Char}
    (word : IsWord first) (more : ∀ word ∈ words, IsWord word)
    (ends : ∀ c, rest.head? = some c → ¬isIdentifierPart c) (colons : Nat)
    : write vocabulary colons (pieces (first ++ (colonned words ++ rest)))
      = spelling vocabulary (2 ≤ colons) first
        ++ (colonned (words.map (spelling vocabulary true))
          ++ write vocabulary 0 (pieces rest)) := by
  induction words generalizing first colons with
  | nil =>
      rw [colonned_nil, List.nil_append, pieces_word word ends, write]
      rfl
  | cons second words ih =>
      rw [List.forall_mem_cons] at more
      simp only [colonned_cons, List.cons_append, List.append_assoc, List.map_cons]
      rw [pieces_word word not_isIdentifierPart_head_colon, write]
      simp only [pieces_colon, write]
      rw [ih more.1 more.2]
      rfl

-----------------------------------------------------------------------------------------
-- The end of a path
-----------------------------------------------------------------------------------------

theorem startsIdentifier_write {next : List Char} (noStart : ¬startsIdentifier next)
    (colons : Nat)
    : ¬startsIdentifier (write vocabulary colons (pieces next)) := by
  cases next with
  | nil =>
      rw [pieces_nil]
      exact noStart
  | cons c rest =>
      obtain ⟨more, written⟩ := head_write_of_not_start vocabulary colons noStart rest
      rw [written]
      exact noStart

/-- A single colon is not joined by another one that is only written. -/
theorem head_write_ne_colon {rest : List Char} (single : ∀ next, rest ≠ ':' :: next)
    (next : List Char)
    : write vocabulary 1 (pieces rest) ≠ ':' :: next := by
  cases rest with
  | nil =>
      rw [pieces_nil]
      exact (List.cons_ne_nil _ _).symm
  | cons c rest =>
      obtain ⟨d, more, written, same⟩ := head_write vocabulary Nat.one_lt_two c rest
      rw [written]
      intro colon
      obtain ⟨rfl, -⟩ := List.cons.inj colon
      rcases same with rfl | ⟨-, letter⟩
      · exact single rest rfl
      · exact absurd letter (by decide)

/-- A path ends before the rest of a formula exactly as before what is written for it: with a double
colon that is left over, or without one.
-/
theorem scanPath_write {rest : List Char} (ends : EndsPath rest)
    : scanPath (write vocabulary 0 (pieces rest)) = scanPath rest := by
  rcases ends.scanPath_eq with ⟨complete, single⟩ | ⟨dangling, next, rfl⟩
  · rw [complete]
    cases rest with
    | nil =>
        rw [pieces_nil]
        rfl
    | cons c rest =>
        have notPart := ends.notPart c rfl
        have noWord : ¬isIdentifierStart c := mt isIdentifierPart_of_start notPart
        obtain ⟨more, written⟩ := head_write_of_not_start vocabulary 0 noWord rest
        rw [written]
        refine scanPath_stop notPart fun next same => ?_
        obtain ⟨rfl, rfl⟩ := List.cons.inj same
        rw [pieces_colon, write] at written
        refine head_write_ne_colon ?_ next (List.cons.inj written).2
        exact fun later same => single later (congrArg _ same)
  · rw [dangling, pieces_colon, pieces_colon, write, write]
    exact scanPath_dangling (startsIdentifier_write (ends.notJoined next rfl) 2)

-----------------------------------------------------------------------------------------
-- Whole paths
-----------------------------------------------------------------------------------------

theorem qualifiedPath_eq (first : List Char) (words : List (List Char))
    : qualifiedPath vocabulary first words
      = (qualifiedWords vocabulary first words).1
        ++ colonned (qualifiedWords vocabulary first words).2 := by
  unfold qualifiedPath qualifiedWords
  rw [spelling]
  cases vocabulary.canonical? (String.ofList first) with
  | some name =>
      simp only [colonned_cons]
      exact List.append_assoc ..
  | none => rfl

section

variable (identifiers : ∀ name ∈ vocabulary.names, isIdentifier name)

include identifiers

theorem isWord_of_canonical? {word name : String} (found : vocabulary.canonical? word = some name)
    : IsWord name.toList :=
  isWord_iff_isIdentifier.mpr (identifiers name (List.mem_of_find?_eq_some found))

theorem isWord_spelling {word : List Char} (isWord : IsWord word)
    : IsWord (spelling vocabulary true word) := by
  unfold spelling
  split
  · exact isWord_of_canonical? identifiers ‹_›
  · exact isWord

theorem isWord_qualifiedWords {first : List Char} {words : List (List Char)}
    (word : IsWord first) (more : ∀ word ∈ words, IsWord word)
    : IsWord (qualifiedWords vocabulary first words).1
      ∧ ∀ word ∈ (qualifiedWords vocabulary first words).2, IsWord word := by
  have respelled : ∀ word ∈ words.map (spelling vocabulary true), IsWord word := by
    intro word member
    obtain ⟨old, listed, rfl⟩ := List.mem_map.mp member
    exact isWord_spelling identifiers (more old listed)
  unfold qualifiedWords
  dsimp only
  split
  · rename_i name found
    have canonical := isWord_of_canonical? identifiers found
    exact ⟨isWord_moduleName, List.forall_mem_cons.mpr ⟨canonical, respelled⟩⟩
  · exact ⟨word, respelled⟩

/-- The scan of what is written for a path and the rest of a formula takes just that path, where the
scan of the formula takes just the path there. Both are complete or both are left dangling.
-/
theorem scanPath_qualified {first : List Char} {words : List (List Char)} {rest : List Char}
    (word : IsWord first) (more : ∀ word ∈ words, IsWord word) (ends : EndsPath rest)
    : scanPath (write vocabulary 0 (pieces (first ++ (colonned words ++ rest))))
      = (scanPath rest).behind (qualifiedPath vocabulary first words) := by
  rw [write_words word more ends.notPart]
  obtain ⟨start, others⟩ := isWord_qualifiedWords identifiers word more
  rw [← List.append_assoc]
  change scanPath (qualifiedPath vocabulary first words ++ _) = _
  rw [qualifiedPath_eq, List.append_assoc, scanPath_words start others, scanPath_write ends]

end

end FormulaCompiler.Qualification
