import FormulaCompiler.Proofs.Lexing.Boundaries
import FormulaCompiler.Proofs.Lexing.Spellings

/-! Tokens apart from the text that they were found in. What a token is made of is cut into just
that token again, and every path of identifiers is one.
-/

namespace FormulaCompiler

/-- A list of characters split at its double colons, from the left. -/
def splitAtColons : List Char → List (List Char)
  | [] => [[]]
  | ':' :: ':' :: rest => [] :: splitAtColons rest
  | c :: rest => (splitAtColons rest).modifyHead (c :: ·)

/-- The segments of a path, which its double colons separate. -/
def pathSegments (path : String) : List String :=
  (splitAtColons path.toList).map String.ofList

theorem splitAtColons_part {word : List Char} (parts : ∀ c ∈ word, isIdentifierPart c)
    (rest : List Char)
    : splitAtColons (word ++ rest) = (splitAtColons rest).modifyHead (word ++ ·) := by
  induction word with
  | nil =>
      rw [List.nil_append]
      cases splitAtColons rest <;> rfl
  | cons c word ih =>
      rw [List.forall_mem_cons] at parts
      have noColon : c ≠ ':' := by
        rintro rfl
        exact not_isIdentifierPart_colon parts.1
      rw [List.cons_append, splitAtColons, ih parts.2, List.modifyHead_modifyHead]
      · rfl
      · exact fun _ colon _ => noColon colon

/-- The words of a path are what its double colons separate, by induction over the words. -/
theorem splitAtColons_words {first : List Char} {words : List (List Char)} (word : IsWord first)
    (more : ∀ word ∈ words, IsWord word)
    : splitAtColons (first ++ colonned words) = first :: words := by
  induction words generalizing first with
  | nil =>
      rw [colonned_nil, splitAtColons_part word.2]
      simp [splitAtColons]
  | cons second words ih =>
      rw [List.forall_mem_cons] at more
      rw [splitAtColons_part word.2, colonned_cons, splitAtColons, ih more.1 more.2]
      simp

namespace Lexeme

-----------------------------------------------------------------------------------------
-- One lexeme alone
-----------------------------------------------------------------------------------------

theorem scan_of_first {c : Char} {more : List Char} {lexeme : Lexeme} (plain : ¬isSeparator c)
    (found : first c more = (lexeme, c :: more))
    : scan (String.ofList (c :: more)) = [⟨lexeme, ⟨0, byteLength (c :: more)⟩⟩] := by
  rw [scan, String.toList_ofList, scanFrom_first plain found (List.append_nil _).symm, scanFrom]
  simp [Span.ofLength]

/-- What a lexeme takes from a text is a text with just this lexeme. -/
theorem scan_taken {c : Char} {rest taken behind : List Char} {lexeme : Lexeme}
    (plain : ¬isSeparator c) (found : first c rest = (lexeme, taken))
    (parts : c :: rest = taken ++ behind)
    : scan (String.ofList taken) = [⟨lexeme, ⟨0, byteLength taken⟩⟩] := by
  obtain ⟨more, rfl, rfl⟩ := exists_taken_cons found parts
  have alone := (showsAsMuch_nil behind).first_eq found
  rw [List.append_nil] at alone
  exact scan_of_first plain alone

/-- A token that is a name is made of the words of a path. -/
theorem exists_words_of_first {c : Char} {rest taken : List Char} {path written : String}
    (found : first c rest = (accepted (.name path) written, taken))
    : ∃ head words, IsWord head ∧ (∀ word ∈ words, IsWord word)
        ∧ taken = head ++ colonned words := by
  unfold first at found
  split at found
  · unfold number at found
    dsimp only at found
    split at found
    · split at found <;> cases found
    · cases found
  · split at found
    · rename_i letter
      obtain ⟨head, words, behind, parts, word, more, ends⟩ := exists_words (c :: rest) letter
      refine ⟨head, words, word, more, ?_⟩
      rw [Lexeme.path, parts, scanPath_words word more] at found
      rcases ends.scanPath_eq with ⟨complete, -⟩ | ⟨dangling, -⟩
      · rw [complete] at found
        simpa [Scan.behind] using (Prod.mk.inj found).2.symm
      · rw [dangling] at found
        cases found
    · split at found
      · rename_i symbol
        obtain ⟨same, -⟩ := Prod.mk.inj found
        exact absurd (Lexeme.accepted.inj same).1 (ofSymbol?_ne_name symbol path)
      · cases found

theorem scan_words {head : List Char} {words : List (List Char)} (word : IsWord head)
    (more : ∀ word ∈ words, IsWord word)
    : let path := String.ofList (head ++ colonned words)
      scan path = [⟨accepted (.name path) path, ⟨0, path.utf8ByteSize⟩⟩] := by
  obtain ⟨c, letters, rfl, letter⟩ := ne_nil_of_startsIdentifier word.1
  have scanned := scanPath_words word more []
  simp only [List.append_nil, scanPath, Scan.behind] at scanned
  intro path
  rw [utf8ByteSize_ofList]
  exact scan_of_first (plain_of_isIdentifierStart letter) (first_path letter scanned)

-----------------------------------------------------------------------------------------
-- Tokens alone
-----------------------------------------------------------------------------------------

theorem hasErrors_of_scan_token {slice written : String} {token : Token} {span : Span}
    (alone : scan slice = [⟨accepted token written, span⟩])
    : Diagnostic.hasErrors (tokenize slice).diagnostics = false := by
  rw [Bool.eq_false_iff, Ne, hasErrors_tokenize]
  rintro ⟨problem, listed⟩
  obtain ⟨lexeme, member, same⟩ := List.mem_map.mp listed
  rw [← scan, alone, List.mem_singleton] at member
  subst member
  cases same

/-- The segments of a name are identifiers. -/
theorem isIdentifier_of_mem_pathSegments {head : List Char} {words : List (List Char)}
    (word : IsWord head) (more : ∀ word ∈ words, IsWord word)
    : pathSegments (String.ofList (head ++ colonned words)) ≠ []
      ∧ ∀ segment ∈ pathSegments (String.ofList (head ++ colonned words)),
          isIdentifier segment := by
  rw [pathSegments, String.toList_ofList, splitAtColons_words word more]
  refine ⟨List.cons_ne_nil _ _, fun segment listed => ?_⟩
  obtain ⟨text, member, rfl⟩ := List.mem_map.mp listed
  rw [← isWord_iff_isIdentifier, String.toList_ofList]
  exact List.forall_mem_cons.mpr ⟨word, more⟩ text member

/-- Identifiers that double colons join are the words of a path. -/
theorem exists_words_of_identifiers {segments : List String} (some : segments ≠ [])
    (identifiers : ∀ segment ∈ segments, isIdentifier segment)
    : ∃ head words, IsWord head ∧ (∀ word ∈ words, IsWord word)
        ∧ "::".intercalate segments = String.ofList (head ++ colonned words) := by
  obtain ⟨first, others, rfl⟩ := List.exists_cons_of_ne_nil some
  rw [List.forall_mem_cons] at identifiers
  have word := isWord_iff_isIdentifier.mpr identifiers.1
  refine ⟨first.toList, others.map String.toList, word, ?_, ?_⟩
  · intro word listed
    obtain ⟨segment, member, rfl⟩ := List.mem_map.mp listed
    exact isWord_iff_isIdentifier.mpr (identifiers.2 segment member)
  · rw [← intercalate_words]
    simp [Function.comp_def]

/-- A token does not depend on what stands around it. The slice that it marks has this token alone,
and no error. The text of a name is its slice, and its segments are identifiers; and every text that
joins identifiers by double colons is one name, with nothing to report. Witness: no token looks
further ahead than the end of the text lets it.
-/
theorem tokens_selfContained
    : (∀ text, ∀ token ∈ (tokenize text).tokens, ∃ slice,
        token.span.Marks text slice
        ∧ (tokenize slice).tokens
          = [⟨token.content, ⟨0, token.span.stop - token.span.start⟩⟩]
        ∧ Diagnostic.hasErrors (tokenize slice).diagnostics = false
        ∧ ∀ path, token.content = .name path
          → path = slice ∧ pathSegments path ≠ []
            ∧ ∀ segment ∈ pathSegments path, isIdentifier segment)
      ∧ ∀ segments, segments ≠ [] → (∀ segment ∈ segments, isIdentifier segment)
        → let path := "::".intercalate segments
          tokenize path
            = { tokens := [⟨.name path, ⟨0, path.utf8ByteSize⟩⟩], diagnostics := [] } := by
  constructor
  · intro text token listed
    obtain ⟨c, rest, taken, written, plain, found, marks, same⟩ := exists_piece listed
    obtain ⟨behind, parts⟩ := first_isPrefix c rest
    rw [found] at parts
    have alone := scan_taken plain found parts.symm
    have length : token.span.stop - token.span.start = byteLength taken := by
      obtain ⟨-, -, -, -, stop⟩ := marks
      rw [stop, utf8ByteSize_ofList, Nat.add_sub_cancel_left]
    refine ⟨String.ofList taken, marks, ?_, hasErrors_of_scan_token alone, ?_⟩
    · rw [tokenize, alone, length]
      rfl
    · intro path isName
      rw [isName] at found same
      have written := same path rfl
      obtain ⟨head, words, word, more, rfl⟩ := exists_words_of_first found
      exact ⟨written.symm, written ▸ isIdentifier_of_mem_pathSegments word more⟩
  · intro segments some identifiers path
    obtain ⟨head, words, word, more, same⟩ := exists_words_of_identifiers some identifiers
    have alone := scan_words word more
    rw [← same] at alone
    rw [tokenize, alone]
    rfl

/-- A path behind a number that is too large and two colons that join nothing. -/
theorem tokens_selfContained_path
    : let path : Spanned Token := ⟨.name "a::b1", ⟨8, 13⟩⟩
      path ∈ (tokenize "1e999:: a::b1€").tokens
      ∧ path.span.Marks "1e999:: a::b1€" "a::b1"
      ∧ (tokenize "a::b1").tokens = [⟨path.content, ⟨0, 5⟩⟩]
      ∧ (∀ segment ∈ pathSegments "a::b1", isIdentifier segment)
      ∧ tokenize ("::".intercalate ["a", "b1"])
        = { tokens := [⟨.name "a::b1", ⟨0, 5⟩⟩], diagnostics := [] } := by
  intro path
  have listed : path ∈ (tokenize "1e999:: a::b1€").tokens := by decide +kernel
  obtain ⟨slice, marks, alone, -, named⟩ := tokens_selfContained.1 _ path listed
  obtain ⟨rfl, -, identifiers⟩ := named "a::b1" rfl
  have joined := tokens_selfContained.2 ["a", "b1"] (by decide) (by decide)
  exact ⟨listed, marks, alone, identifiers, joined⟩

end Lexeme

end FormulaCompiler
