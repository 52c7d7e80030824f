import FormulaCompiler.Proofs.Lexing.FirstLexeme

/-! The codes of the errors of cutting a text, one lexeme after the other. Only what is no token has
one: a stray character or a double colon without a name behind it, and a malformed number.
-/

namespace FormulaCompiler

/-- The codes of stray characters and malformed numbers among the reports about cutting a text. -/
def lexicalErrorCodes (text : String) : List String :=
  ((tokenize text).diagnostics.map (·.problem.code)).filter fun code =>
    code = "CF0001" || code = "CF0002"

namespace Lexeme

/-- The code of the error that a lexeme is. -/
def errorCode? : Lexeme → Option String
  | .accepted _ _ => none
  | .rejected problem => some problem.code

/-- The codes of the errors among the lexemes of a text. -/
def errorCodes (text : List Char) : List String :=
  (contents text).filterMap errorCode?

theorem IsLexical.code {problem : Problem} (lexical : IsLexical problem)
    : problem.code = "CF0001" ∨ problem.code = "CF0002" := by
  cases lexical <;> simp [Problem.code]

/-- A report about a lexeme has one of the two codes exactly if the lexeme is no token. -/
theorem filter_code_eq_errorCode? {lexeme : Lexeme}
    (lexical : ∀ problem, lexeme = rejected problem → IsLexical problem)
    : ((lexeme.problem?.map Problem.code).filter fun code => code = "CF0001" || code = "CF0002")
      = lexeme.errorCode? := by
  cases lexeme with
  | rejected problem =>
      rcases (lexical problem rfl).code with code | code <;>
        simp [problem?, errorCode?, Option.filter, code]
  | accepted token text =>
      cases token with
      | number value =>
          by_cases infinite : value.isInf <;>
            simp [problem?, errorCode?, Problem.code, Option.filter, infinite]
      | _ => rfl

theorem lexicalErrorCodes_eq (text : String) : lexicalErrorCodes text = errorCodes text.toList := by
  have codes : (tokenize text).diagnostics.map (·.problem.code)
      = (contents text.toList).filterMap fun lexeme => lexeme.problem?.map Problem.code := by
    rw [← List.map_filterMap, ← map_problem_diagnostics, List.map_map]
    rfl
  rw [lexicalErrorCodes, codes, List.filter_filterMap, errorCodes]
  refine List.filterMap_congr fun lexeme member => filter_code_eq_errorCode? ?_
  rintro problem rfl
  exact isLexical_of_mem_contents member

-----------------------------------------------------------------------------------------
-- One lexeme
-----------------------------------------------------------------------------------------

@[simp] theorem errorCodes_nil : errorCodes [] = [] := by
  simp [errorCodes]

theorem errorCodes_separator {c : Char} (separates : isSeparator c) (rest : List Char)
    : errorCodes (c :: rest) = errorCodes rest := by
  simp [errorCodes, contents_separator separates]

theorem errorCodes_of_contents {text behind : List Char} {lexeme : Lexeme}
    (found : contents text = lexeme :: contents behind)
    : errorCodes text = lexeme.errorCode?.toList ++ errorCodes behind := by
  cases said : lexeme.errorCode? <;> simp [errorCodes, found, said]

theorem errorCodes_symbol {c : Char} {rest : List Char} (plain : ¬isSeparator c)
    (noNumber : ¬startsNumber c rest) (noWord : ¬isIdentifierStart c)
    : errorCodes (c :: rest)
      = (if (Token.ofSymbol? c).isSome then [] else ["CF0001"]) ++ errorCodes rest := by
  rw [errorCodes_of_contents (contents_symbol plain noNumber noWord)]
  cases Token.ofSymbol? c <;> rfl

@[simp] theorem errorCodes_colon (rest : List Char)
    : errorCodes (':' :: rest) = "CF0001" :: errorCodes rest :=
  errorCodes_symbol (by decide) (by simp [startsNumber]) (by decide)

-----------------------------------------------------------------------------------------
-- Numbers
-----------------------------------------------------------------------------------------

section

variable {c : Char} {more : List Char} {wellFormed : Bool}

theorem contents_number {rest taken behind : List Char} {lexeme : Lexeme}
    (start : startsNumber c rest) (found : number (c :: rest) = (lexeme, taken))
    (parts : c :: rest = taken ++ behind)
    : contents (c :: rest) = lexeme :: contents behind :=
  contents_first (fun separates => (plain_of_isSeparator separates rest).1 start)
    ((if_pos start).trans found) parts

theorem errorCodes_number {rest : List Char} (start : startsNumber c (more ++ rest))
    (scanned : scanNumber (c :: more ++ rest) = ⟨c :: more, wellFormed⟩)
    (ends : ∀ d, rest.head? = some d → ¬isIdentifierPart d)
    : errorCodes (c :: (more ++ rest))
      = (if wellFormed && (Decimal.read? (c :: more)).isSome then [] else ["CF0002"])
        ++ errorCodes rest := by
  rw [errorCodes_of_contents (contents_number start (number_of_unglued scanned ends) rfl)]
  cases wellFormed with
  | false => rfl
  | true => cases Decimal.read? (c :: more) <;> rfl

/-- A word that is glued to a number makes one error with it. -/
theorem errorCodes_gluedNumber {word rest : List Char}
    (start : startsNumber c (more ++ (word ++ rest)))
    (scanned : scanNumber (c :: more ++ (word ++ rest)) = ⟨c :: more, wellFormed⟩)
    (isWord : IsWord word) (ends : ∀ d, rest.head? = some d → ¬isIdentifierPart d)
    : errorCodes (c :: (more ++ (word ++ rest))) = "CF0002" :: errorCodes rest := by
  have glued := takeWhile_part_append isWord.2 ends
  obtain ⟨d, letters, rfl, -⟩ := ne_nil_of_startsIdentifier isWord.1
  have found : number (c :: more ++ (d :: letters ++ rest))
      = (rejected (.malformedNumber (String.ofList (c :: more ++ d :: letters))),
          c :: more ++ d :: letters) := by
    unfold number
    dsimp only
    rw [scanned, List.drop_left, glued]
    cases wellFormed <;> rfl
  exact errorCodes_of_contents
    (contents_number start found (List.append_assoc (c :: more) (d :: letters) rest).symm)

end

-----------------------------------------------------------------------------------------
-- Paths
-----------------------------------------------------------------------------------------

section

variable {first : List Char} {words : List (List Char)} (word : IsWord first)
  (more : ∀ word ∈ words, IsWord word)

include word more

theorem errorCodes_path {rest : List Char} (complete : scanPath rest = ⟨[], true⟩)
    : errorCodes (first ++ (colonned words ++ rest)) = errorCodes rest := by
  have scanned := scanPath_words word more rest
  rw [complete] at scanned
  simp only [Scan.behind, List.append_nil] at scanned
  exact errorCodes_of_contents
    (contents_path (startsIdentifier_append word.1 _) scanned (List.append_assoc ..).symm)

theorem errorCodes_danglingPath {next : List Char} (noStart : ¬startsIdentifier next)
    : errorCodes (first ++ (colonned words ++ ':' :: ':' :: next))
      = "CF0001" :: errorCodes next := by
  have scanned := scanPath_words word more (':' :: ':' :: next)
  rw [scanPath_dangling noStart] at scanned
  exact errorCodes_of_contents
    (contents_path (startsIdentifier_append word.1 _) scanned (by simp))

end

/-- A word before a path belongs to the path, which is complete or left dangling as before. -/
theorem errorCodes_joined {word next : List Char} (isWord : IsWord word)
    (start : startsIdentifier next)
    : errorCodes (word ++ ':' :: ':' :: next) = errorCodes next := by
  obtain ⟨second, words, rest, rfl, secondWord, more, ends⟩ := exists_words next start
  have all := List.forall_mem_cons.mpr ⟨secondWord, more⟩
  have joined : word ++ ':' :: ':' :: (second ++ (colonned words ++ rest))
      = word ++ (colonned (second :: words) ++ rest) := by
    simp
  rw [joined]
  rcases ends.scanPath_eq with ⟨complete, -⟩ | ⟨-, next, rfl⟩
  · rw [errorCodes_path isWord all complete, errorCodes_path secondWord more complete]
  · have noStart := ends.notJoined next rfl
    rw [errorCodes_danglingPath isWord all noStart, errorCodes_danglingPath secondWord more noStart]

end Lexeme

end FormulaCompiler
