import Mathlib
import FormulaCompiler.Identifier
import FormulaCompiler.Number.Literal

/-! Paths as words with double colons between them, and how the scan of a path goes over them. -/

namespace FormulaCompiler

/-- Whether a text is one identifier, as a list of characters. -/
def IsWord (text : List Char) : Prop :=
  startsIdentifier text ∧ ∀ c ∈ text, isIdentifierPart c

/-- Words with a double colon before each of them. -/
def colonned (words : List (List Char)) : List Char :=
  words.flatMap fun word => ':' :: ':' :: word

@[simp] theorem colonned_nil : colonned [] = [] := rfl

@[simp] theorem colonned_cons (word : List Char) (words : List (List Char))
    : colonned (word :: words) = ':' :: ':' :: (word ++ colonned words) := rfl

/-- Whether no word and no path goes on with this text. -/
structure EndsPath (rest : List Char) : Prop where
  notPart : ∀ c, rest.head? = some c → ¬isIdentifierPart c
  notJoined : ∀ next, rest = ':' :: ':' :: next → ¬startsIdentifier next

theorem isWord_iff_isIdentifier {text : String} : IsWord text.toList ↔ isIdentifier text := by
  unfold IsWord isIdentifier startsIdentifier
  cases text.toList with
  | nil => simp
  | cons c rest =>
      simp only [List.forall_mem_cons, Bool.and_eq_true, List.all_eq_true]
      exact ⟨fun word => ⟨word.1, word.2.2⟩,
        fun word => ⟨word.1, isIdentifierPart_of_start word.1, word.2⟩⟩

theorem takeWhile_part_eq_nil {rest : List Char}
    (ends : ∀ c, rest.head? = some c → ¬isIdentifierPart c)
    : rest.takeWhile isIdentifierPart = [] := by
  cases rest with
  | nil => rfl
  | cons c rest => exact List.takeWhile_cons_of_neg (ends c rfl)

theorem takeWhile_part_append {word rest : List Char} (parts : ∀ c ∈ word, isIdentifierPart c)
    (ends : ∀ c, rest.head? = some c → ¬isIdentifierPart c)
    : (word ++ rest).takeWhile isIdentifierPart = word := by
  rw [List.takeWhile_append_of_pos parts, takeWhile_part_eq_nil ends, List.append_nil]

theorem not_isIdentifierPart_colon : ¬isIdentifierPart ':' := by
  decide

theorem not_isIdentifierPart_head_colon {rest : List Char}
    : ∀ c, (':' :: rest).head? = some c → ¬isIdentifierPart c := by
  rintro c ⟨⟩
  exact not_isIdentifierPart_colon

theorem isIdentifierStart_of_part {c : Char} (part : isIdentifierPart c) (noDigit : ¬c.isDigit)
    : isIdentifierStart c := by
  simp only [isIdentifierPart, Char.isAlphanum, Bool.or_eq_true, decide_eq_true_eq] at part
  simpa [isIdentifierStart, noDigit] using part

/-- A word and a number cannot begin at the same place. -/
theorem not_startsNumber_of_isIdentifierStart {c : Char} (start : isIdentifierStart c)
    (rest : List Char)
    : ¬startsNumber c rest := by
  simp only [isIdentifierStart, startsNumber, Bool.or_eq_true, Bool.and_eq_true,
    decide_eq_true_eq] at start ⊢
  rintro (digit | ⟨rfl, -⟩)
  · rcases start with rfl | letter
    · exact absurd digit (by decide)
    · simp only [Char.isDigit, Char.isAlpha, Char.isUpper, Char.isLower, Bool.or_eq_true,
        Bool.and_eq_true, decide_eq_true_eq, UInt32.le_iff_toNat_le] at digit letter
      have low : c.val.toNat ≤ 57 := digit.2
      rcases letter with upper | lower
      · exact absurd (Nat.le_trans upper.1 low) (by decide)
      · exact absurd (Nat.le_trans lower.1 low) (by decide)
  · exact absurd start (by decide)

-----------------------------------------------------------------------------------------
-- Scanning
-----------------------------------------------------------------------------------------

@[simp] theorem Scan.behind_behind (scan : Scan) (inner outer : List Char)
    : (scan.behind inner).behind outer = scan.behind (outer ++ inner) := by
  simp only [Scan.behind, List.append_assoc]

theorem scanPath_part {c : Char} (part : isIdentifierPart c) (rest : List Char)
    : scanPath (c :: rest) = (scanPath rest).behind [c] :=
  (scanPath.eq_def _).trans (if_pos part)

theorem scanPath_stop {c : Char} {rest : List Char} (notPart : ¬isIdentifierPart c)
    (single : ∀ next, c :: rest ≠ ':' :: ':' :: next)
    : scanPath (c :: rest) = ⟨[], true⟩ := by
  refine (scanPath.eq_def _).trans ((if_neg notPart).trans ?_)
  split
  · rename_i next
    exact absurd rfl (single next)
  · rfl

theorem scanPath_of_ends {rest : List Char}
    (ends : ∀ c, rest.head? = some c → ¬isIdentifierPart c)
    (single : ∀ next, rest ≠ ':' :: ':' :: next)
    : scanPath rest = ⟨[], true⟩ := by
  cases rest with
  | nil => rfl
  | cons c rest => exact scanPath_stop (ends c rfl) single

theorem scanPath_joined {next : List Char} (start : startsIdentifier next)
    : scanPath (':' :: ':' :: next) = (scanPath next).behind [':', ':'] :=
  (scanPath.eq_def _).trans ((if_neg not_isIdentifierPart_colon).trans (if_pos start))

theorem scanPath_dangling {next : List Char} (noStart : ¬startsIdentifier next)
    : scanPath (':' :: ':' :: next) = ⟨[':', ':'], false⟩ :=
  (scanPath.eq_def _).trans ((if_neg not_isIdentifierPart_colon).trans (if_neg noStart))

theorem scanPath_append_of_parts {word : List Char} (parts : ∀ c ∈ word, isIdentifierPart c)
    (rest : List Char)
    : scanPath (word ++ rest) = (scanPath rest).behind word := by
  induction word with
  | nil => rfl
  | cons c word ih =>
      rw [List.forall_mem_cons] at parts
      rw [List.cons_append, scanPath_part parts.1, ih parts.2, Scan.behind_behind]
      rfl

theorem startsIdentifier_append {word : List Char} (start : startsIdentifier word)
    (rest : List Char)
    : startsIdentifier (word ++ rest) := by
  cases word with
  | nil => cases start
  | cons c word => exact start

theorem scanPath_colonned {words : List (List Char)} (all : ∀ word ∈ words, IsWord word)
    (rest : List Char)
    : scanPath (colonned words ++ rest) = (scanPath rest).behind (colonned words) := by
  induction words with
  | nil => rfl
  | cons word words ih =>
      rw [List.forall_mem_cons] at all
      have start := startsIdentifier_append all.1.1 (colonned words ++ rest)
      simp only [colonned_cons, List.cons_append, List.append_assoc]
      rw [scanPath_joined start, scanPath_append_of_parts all.1.2, ih all.2]
      simp only [Scan.behind_behind, List.cons_append, List.nil_append]

/-- The scan takes all words of a path and goes on behind them. -/
theorem scanPath_words {first : List Char} {words : List (List Char)} (word : IsWord first)
    (more : ∀ word ∈ words, IsWord word) (rest : List Char)
    : scanPath (first ++ (colonned words ++ rest))
      = (scanPath rest).behind (first ++ colonned words) := by
  rw [scanPath_append_of_parts word.2, scanPath_colonned more, Scan.behind_behind]

/-- Behind the words of a path nothing more is taken but a double colon that is left over. -/
theorem EndsPath.scanPath_eq {rest : List Char} (ends : EndsPath rest)
    : scanPath rest = ⟨[], true⟩ ∧ (∀ next, rest ≠ ':' :: ':' :: next)
      ∨ scanPath rest = ⟨[':', ':'], false⟩ ∧ ∃ next, rest = ':' :: ':' :: next := by
  by_cases joined : ∃ next, rest = ':' :: ':' :: next
  · obtain ⟨next, rfl⟩ := joined
    exact .inr ⟨scanPath_dangling (ends.notJoined next rfl), next, rfl⟩
  · have single : ∀ next, rest ≠ ':' :: ':' :: next :=
      fun next same => joined ⟨next, same⟩
    exact .inl ⟨scanPath_of_ends ends.notPart single, single⟩

/-- A text that begins with an identifier begins with a word that is as long as it can be. -/
theorem exists_word {text : List Char} (start : startsIdentifier text)
    : ∃ word rest, text = word ++ rest ∧ IsWord word
        ∧ ∀ c, rest.head? = some c → ¬isIdentifierPart c := by
  have parts := List.takeWhile_append_dropWhile (p := isIdentifierPart) (l := text)
  refine ⟨text.takeWhile isIdentifierPart, text.dropWhile isIdentifierPart, parts.symm,
    ⟨?_, ?_⟩, ?_⟩
  · cases text with
    | nil => cases start
    | cons c rest =>
        rw [List.takeWhile_cons_of_pos (isIdentifierPart_of_start start)]
        exact start
  · exact List.all_eq_true.mp List.all_takeWhile
  · intro c head
    have stopped := List.head?_dropWhile_not isIdentifierPart text
    rw [head] at stopped
    simpa using stopped

/-- A text that begins with an identifier begins with the words of a path, which ends there.
Witness: by induction over the length, the first word is as long as it can be.
-/
theorem exists_words (text : List Char) (start : startsIdentifier text)
    : ∃ first words rest, text = first ++ (colonned words ++ rest)
        ∧ IsWord first ∧ (∀ word ∈ words, IsWord word) ∧ EndsPath rest := by
  obtain ⟨first, rest, parts, word, notPart⟩ := exists_word start
  by_cases joined : ∃ next, rest = ':' :: ':' :: next ∧ startsIdentifier next
  · obtain ⟨next, rfl, nextStart⟩ := joined
    obtain ⟨second, words, behind, same, secondWord, all, ends⟩ := exists_words next nextStart
    have words := List.forall_mem_cons.mpr ⟨secondWord, all⟩
    refine ⟨first, second :: _, behind, ?_, word, words, ends⟩
    rw [parts, same]
    simp
  · refine ⟨first, [], rest, parts, word, by simp, notPart, ?_⟩
    exact fun next same nextStart => joined ⟨next, same, nextStart⟩
termination_by text.length
decreasing_by
  rw [parts]
  simp only [List.length_append, List.length_cons]
  omega

-----------------------------------------------------------------------------------------
-- The words of a path
-----------------------------------------------------------------------------------------

theorem takeWhile_words {first : List Char} (word : IsWord first) (words : List (List Char))
    : (first ++ colonned words).takeWhile isIdentifierPart = first := by
  refine takeWhile_part_append word.2 fun c head => ?_
  cases words with
  | nil => cases head
  | cons second words => exact not_isIdentifierPart_head_colon c head

theorem colonned_inj {words words' : List (List Char)} (all : ∀ word ∈ words, IsWord word)
    (all' : ∀ word ∈ words', IsWord word) (same : colonned words = colonned words')
    : words = words' := by
  induction words generalizing words' with
  | nil =>
      cases words' with
      | nil => rfl
      | cons second' words' => cases same
  | cons second words ih =>
      cases words' with
      | nil => cases same
      | cons second' words' =>
          rw [List.forall_mem_cons] at all all'
          rw [colonned_cons, colonned_cons, List.cons_inj_right, List.cons_inj_right] at same
          have head : second = second' := by
            rw [← takeWhile_words all.1 words, same, takeWhile_words all'.1]
          subst head
          rw [ih all.2 all'.2 (List.append_cancel_left same)]

/-- A path has its words from its text alone. -/
theorem words_inj {first first' : List Char} {words words' : List (List Char)}
    (word : IsWord first) (more : ∀ word ∈ words, IsWord word)
    (word' : IsWord first') (more' : ∀ word ∈ words', IsWord word)
    (same : first ++ colonned words = first' ++ colonned words')
    : first = first' ∧ words = words' := by
  have front : first = first' := by
    rw [← takeWhile_words word words, same, takeWhile_words word']
  subst front
  exact ⟨rfl, colonned_inj more more' (List.append_cancel_left same)⟩

/-- The words of a path are its segments, by induction over the words behind the first. -/
theorem intercalate_words (first : List Char) (words : List (List Char))
    : "::".intercalate ((first :: words).map String.ofList)
      = String.ofList (first ++ colonned words) := by
  induction words generalizing first with
  | nil => simp
  | cons second words ih =>
      have rest := ih second
      simp only [List.map_cons] at rest
      simp [rest, String.ofList_append, String.append_assoc]
      rfl

end FormulaCompiler
