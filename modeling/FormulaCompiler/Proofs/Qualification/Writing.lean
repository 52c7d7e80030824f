import FormulaCompiler.Proofs.Lexing.NumberEnds
import FormulaCompiler.Proofs.Lexing.Paths
import FormulaCompiler.Qualification

/-! How the pieces of a formula are written again. The text that a formula goes on with looks the
same from the front as before, apart from the path that a word may get, which also begins with a
letter.
-/

namespace FormulaCompiler.Qualification

-----------------------------------------------------------------------------------------
-- Cutting a text where its first piece ends
-----------------------------------------------------------------------------------------

@[simp] theorem pieces_nil : pieces [] = [] := by
  rw [pieces]

theorem pieces_first {c : Char} {rest behind : List Char}
    (parts : c :: rest = (Piece.first c rest).text ++ behind)
    : pieces (c :: rest) = Piece.first c rest :: pieces behind := by
  obtain ⟨d, more, taken⟩ := List.exists_cons_of_ne_nil (Piece.first_ne_nil c rest)
  rw [taken] at parts
  obtain ⟨-, split⟩ := List.cons.inj parts
  have left : rest.drop ((Piece.first c rest).text.length - 1) = behind := by
    rw [taken, split]
    exact List.drop_left
  rw [pieces, left]

theorem pieces_number {c : Char} {rest behind : List Char} (start : startsNumber c rest)
    (parts : c :: rest = (scanNumber (c :: rest)).text ++ behind)
    : pieces (c :: rest) = .number (scanNumber (c :: rest)).text :: pieces behind := by
  have found : Piece.first c rest = .number (scanNumber (c :: rest)).text := if_pos start
  rw [← found]
  apply pieces_first
  rw [found]
  exact parts

theorem pieces_other {c : Char} {rest : List Char} (noNumber : ¬startsNumber c rest)
    (noWord : ¬isIdentifierStart c)
    : pieces (c :: rest) = .other c :: pieces rest := by
  have found : Piece.first c rest = .other c := (if_neg noNumber).trans (if_neg noWord)
  rw [← found]
  apply pieces_first
  rw [found]
  rfl

theorem pieces_word {word : List Char} (isWord : IsWord word) {rest : List Char}
    (ends : ∀ c, rest.head? = some c → ¬isIdentifierPart c)
    : pieces (word ++ rest) = .word word :: pieces rest := by
  obtain ⟨start, parts⟩ := isWord
  cases word with
  | nil => cases start
  | cons c word =>
      rw [List.forall_mem_cons] at parts
      have taken := takeWhile_part_append parts.2 ends
      have found : Piece.first c (word ++ rest) = .word (c :: word) := by
        unfold Piece.first
        rw [if_neg (not_startsNumber_of_isIdentifierStart start _), taken]
        exact if_pos start
      rw [List.cons_append, ← found]
      apply pieces_first
      rw [found]
      rfl

-----------------------------------------------------------------------------------------
-- The first character of what is written
-----------------------------------------------------------------------------------------

theorem spelling_of_unknown {vocabulary : Vocabulary} {word : List Char}
    (unknown : vocabulary.canonical? (String.ofList word) = none) (qualified : Bool)
    : spelling vocabulary qualified word = word := by
  simp [spelling, unknown]

theorem spelling_of_known {vocabulary : Vocabulary} {word : List Char} {name : String}
    (known : vocabulary.canonical? (String.ofList word) = some name) {colons : Nat}
    (unqualified : colons < 2) (rest : List Char)
    : spelling vocabulary (2 ≤ colons) word ++ rest
      = Library.moduleName.toList ++ ':' :: ':' :: (name.toList ++ rest) := by
  simp [spelling, known, libraryPath, Nat.not_le.mpr unqualified]

theorem spelling_of_qualified {vocabulary : Vocabulary} {word : List Char} {name : String}
    (known : vocabulary.canonical? (String.ofList word) = some name)
    : spelling vocabulary true word = name.toList := by
  simp [spelling, known]

/-- A word begins as before, or with the name of the library. -/
theorem head_spelling (vocabulary : Vocabulary) (c : Char) (word : List Char)
    : ∃ d more, spelling vocabulary false (c :: word) = d :: more ∧ (d = c ∨ d = 'm') := by
  unfold spelling
  split
  · exact ⟨'m', _, rfl, .inr rfl⟩
  · exact ⟨c, word, rfl, .inl rfl⟩

theorem head_write_of_not_start (vocabulary : Vocabulary) (colons : Nat) {c : Char}
    (noWord : ¬isIdentifierStart c) (rest : List Char)
    : ∃ more, write vocabulary colons (pieces (c :: rest)) = c :: more := by
  rw [pieces]
  generalize pieces _ = later
  unfold Piece.first
  split
  · rename_i start
    obtain ⟨d, more, taken⟩ := List.exists_cons_of_ne_nil (scanNumber_ne_nil start)
    obtain ⟨rfl, -⟩ := List.cons_prefix_cons.mp (taken ▸ scanNumber_isPrefix (c :: rest))
    rw [write, taken]
    exact ⟨_, rfl⟩
  · exact ⟨_, rfl⟩

/-- What is written begins as before, unless that is a word, which may get a path in front. -/
theorem head_write (vocabulary : Vocabulary) {colons : Nat} (unqualified : colons < 2) (c : Char)
    (rest : List Char)
    : ∃ d more, write vocabulary colons (pieces (c :: rest)) = d :: more
        ∧ (d = c ∨ isIdentifierStart c ∧ d = 'm') := by
  by_cases start : isIdentifierStart c
  · have plain : decide (2 ≤ colons) = false := decide_eq_false (Nat.not_le.mpr unqualified)
    have found : Piece.first c rest = .word (c :: rest.takeWhile isIdentifierPart) :=
      (if_neg (not_startsNumber_of_isIdentifierStart start rest)).trans (if_pos start)
    obtain ⟨d, more, spelled, same⟩ :=
      head_spelling vocabulary c (rest.takeWhile isIdentifierPart)
    rw [pieces, found, write, plain, spelled]
    exact ⟨d, _, rfl, same.imp_right fun path => ⟨start, path⟩⟩
  · obtain ⟨more, written⟩ := head_write_of_not_start vocabulary colons start rest
    exact ⟨c, more, written, .inl rfl⟩

/-- A number ends before the rest of a formula exactly as before what is written for it. -/
theorem endsNumberLike_write (vocabulary : Vocabulary) (rest : List Char)
    : EndsNumberLike rest (write vocabulary 0 (pieces rest)) := by
  intro c head continues
  cases rest with
  | nil =>
      rw [pieces_nil] at head
      cases head
  | cons d rest =>
      obtain ⟨e, more, written, same⟩ := head_write vocabulary Nat.zero_lt_two d rest
      rw [written] at head
      obtain rfl := Option.some.inj head
      rcases same with rfl | ⟨-, rfl⟩
      · rfl
      · exact absurd continues (by decide)

/-- A word goes on with the rest of a formula exactly as with what is written for it. -/
theorem isIdentifierPart_write (vocabulary : Vocabulary) {colons : Nat} (unqualified : colons < 2)
    (rest : List Char)
    : (∃ c, (write vocabulary colons (pieces rest)).head? = some c ∧ isIdentifierPart c)
      ↔ ∃ c, rest.head? = some c ∧ isIdentifierPart c := by
  cases rest with
  | nil =>
      rw [pieces_nil]
      rfl
  | cons d rest =>
      obtain ⟨e, more, written, same⟩ := head_write vocabulary unqualified d rest
      rw [written]
      simp only [List.head?_cons, Option.some.injEq, exists_eq_left']
      rcases same with rfl | ⟨start, rfl⟩
      · rfl
      · exact iff_of_true (by decide) (isIdentifierPart_of_start start)

theorem notPart_write (vocabulary : Vocabulary) {colons : Nat} (unqualified : colons < 2)
    {rest : List Char} (ends : ∀ c, rest.head? = some c → ¬isIdentifierPart c)
    : ∀ c, (write vocabulary colons (pieces rest)).head? = some c → ¬isIdentifierPart c := by
  intro c head part
  obtain ⟨d, head, part⟩ :=
    (isIdentifierPart_write vocabulary unqualified rest).mp ⟨c, head, part⟩
  exact ends d head part

/-- What begins with the same character is a number in both texts or in none. -/
theorem startsNumber_write (vocabulary : Vocabulary) {colons : Nat} (unqualified : colons < 2)
    (c : Char) (rest : List Char)
    : startsNumber c (write vocabulary colons (pieces rest)) = startsNumber c rest := by
  unfold startsNumber
  cases rest with
  | nil =>
      rw [pieces_nil]
      rfl
  | cons d rest =>
      obtain ⟨e, more, written, same⟩ := head_write vocabulary unqualified d rest
      rw [written]
      rcases same with rfl | ⟨start, rfl⟩
      · rfl
      · have noDigit : d.isDigit = false := by
          have noNumber := not_startsNumber_of_isIdentifierStart start rest
          simp only [startsNumber, Bool.or_eq_true, not_or] at noNumber
          exact Bool.eq_false_iff.mpr noNumber.1
        simp only [List.head?_cons, Option.map_some, Option.getD_some, noDigit]
        rfl

end FormulaCompiler.Qualification
