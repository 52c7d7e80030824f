import FormulaCompiler.Proofs.Lexing.FirstLexeme
import FormulaCompiler.Proofs.Qualification.Paths

/-! A formula and what is written for it are cut at the same places. Up to the first piece that is
no token, which is at the same place in both, the lexemes are the same apart from names.
-/

namespace FormulaCompiler

open Qualification Lexeme

/-- Whether lexemes agree up to the first one that is no token, where names stand for each other as
(renamed) says.
-/
inductive Lexeme.Corresponds (renamed : String → String → Prop)
    : List Lexeme → List Lexeme → Prop
  | done : Corresponds renamed [] []
  | same {token text left right} (plain : ∀ path, token ≠ .name path)
      (rest : Corresponds renamed left right)
      : Corresponds renamed (accepted token text :: left) (accepted token text :: right)
  | name {path other left right} (related : renamed path other)
      (rest : Corresponds renamed left right)
      : Corresponds renamed (accepted (.name path) path :: left)
          (accepted (.name other) other :: right)
  | refused {problem other left right}
      : Corresponds renamed (rejected problem :: left) (rejected other :: right)

-----------------------------------------------------------------------------------------
-- One lexeme, and the rest of the formula
-----------------------------------------------------------------------------------------

section

variable {vocabulary : Vocabulary} {within : Char → Prop}

/-- Whether a text that only has characters (within) corresponds to what is written for it. -/
def Qualification.Agrees (vocabulary : Vocabulary) (within : Char → Prop) (text : List Char)
    : Prop :=
  (∀ c ∈ text, within c)
  → Corresponds (fun path other => Qualifies vocabulary path other ∧ ∀ c ∈ path.toList, within c)
      (contents text) (contents (write vocabulary 0 (pieces text)))

theorem startsNumber_congr {c : Char} {rest other : List Char} (same : rest.head? = other.head?)
    : startsNumber c rest = startsNumber c other := by
  unfold startsNumber
  rw [same]

/-- The same number is cut off from a text and from what is written for it. -/
theorem cut_number (vocabulary : Vocabulary) {c : Char} {rest : List Char}
    (start : startsNumber c rest)
    : ∃ more behind wellFormed,
        rest = more ++ behind
        ∧ scanNumber (c :: more ++ behind) = ⟨c :: more, wellFormed⟩
        ∧ scanNumber (c :: more ++ write vocabulary 0 (pieces behind))
          = ⟨c :: more, wellFormed⟩
        ∧ startsNumber c (more ++ write vocabulary 0 (pieces behind))
        ∧ pieces (c :: rest) = .number (c :: more) :: pieces behind := by
  obtain ⟨behind, parts⟩ := scanNumber_isPrefix (c :: rest)
  obtain ⟨d, more, taken⟩ := List.exists_cons_of_ne_nil (scanNumber_ne_nil start)
  have scanned : scanNumber ((scanNumber (c :: rest)).text ++ behind)
      = ⟨(scanNumber (c :: rest)).text, (scanNumber (c :: rest)).wellFormed⟩ := by
    rw [parts]
  have cut := pieces_number start parts.symm
  generalize (scanNumber (c :: rest)).text = front at *
  generalize (scanNumber (c :: rest)).wellFormed = wellFormed at *
  subst taken
  rw [List.cons_append] at parts
  obtain ⟨rfl, rfl⟩ := List.cons.inj parts
  have rescanned := (endsNumberLike_write vocabulary behind).scanNumber_eq scanned
  have restart : startsNumber d (more ++ write vocabulary 0 (pieces behind)) := by
    rw [← start]
    cases more with
    | nil => exact startsNumber_write vocabulary Nat.zero_lt_two d behind
    | cons e more => exact startsNumber_congr rfl
  exact ⟨more, behind, wellFormed, rfl, scanned, rescanned, restart, cut⟩

/-- A number is the same lexeme in both texts, or malformed in both. -/
theorem agrees_number {c : Char} {rest : List Char} (start : startsNumber c rest)
    (later
      : ∀ behind, behind.length < (c :: rest).length → Agrees vocabulary within behind)
    : Agrees vocabulary within (c :: rest) := by
  have plain : ¬isSeparator c :=
    fun separates => (plain_of_isSeparator separates rest).1 start
  obtain ⟨more, behind, wellFormed, rfl, scanned, rescanned, restart, cut⟩ :=
    cut_number vocabulary start
  have found : first c (more ++ behind) = number (c :: more ++ behind) := if_pos start
  have refound
      : first c (more ++ write vocabulary 0 (pieces behind))
        = number (c :: more ++ write vocabulary 0 (pieces behind)) :=
    if_pos restart
  intro all
  rw [cut, write]
  by_cases glued : ∃ e, behind.head? = some e ∧ isIdentifierPart e
  · obtain ⟨e, head, part⟩ := glued
    obtain ⟨e', head', part'⟩ :=
      (isIdentifierPart_write vocabulary Nat.zero_lt_two behind).mpr ⟨e, head, part⟩
    obtain ⟨problem, taken, refused⟩ := number_of_glued scanned head part
    obtain ⟨problem', taken', refused'⟩ := number_of_glued rescanned head' part'
    obtain ⟨left, leftContents⟩ := contents_rejected plain (found.trans refused)
    obtain ⟨right, rightContents⟩ := contents_rejected plain (refound.trans refused')
    rw [leftContents, List.cons_append, rightContents]
    exact .refused
  · have ends : ∀ e, behind.head? = some e → ¬isIdentifierPart e :=
      fun e head part => glued ⟨e, head, part⟩
    have ends' := notPart_write vocabulary Nat.zero_lt_two ends
    have left := contents_first plain (found.trans (number_of_unglued scanned ends)) rfl
    have right := contents_first plain (refound.trans (number_of_unglued rescanned ends')) rfl
    have shorter : behind.length < (c :: (more ++ behind)).length := by
      simp only [List.length_cons, List.length_append]
      omega
    have rest := later behind shorter fun e member =>
      all e (List.mem_cons_of_mem _ (List.mem_append_right _ member))
    rw [left, List.cons_append, right]
    split
    · split
      · refine .same ?_ rest
        intro name same
        cases same
      · exact .refused
    · exact .refused

/-- A path is one name in both texts, or left dangling in both. -/
theorem agrees_path (identifiers : ∀ name ∈ vocabulary.names, isIdentifier name)
    {text : List Char} (start : startsIdentifier text)
    (later : ∀ behind, behind.length < text.length → Agrees vocabulary within behind)
    : Agrees vocabulary within text := by
  intro all
  obtain ⟨first, words, rest, rfl, word, more, ends⟩ := exists_words text start
  obtain ⟨headWord, -⟩ := isWord_qualifiedWords identifiers word more
  have scanned := scanPath_words word more rest
  have rescanned := scanPath_qualified identifiers word more ends
  have written : write vocabulary 0 (pieces (first ++ (colonned words ++ rest)))
      = qualifiedPath vocabulary first words ++ write vocabulary 0 (pieces rest) := by
    rw [write_words word more ends.notPart, ← List.append_assoc]
    rfl
  have restart
      : startsIdentifier (write vocabulary 0 (pieces (first ++ (colonned words ++ rest)))) := by
    rw [written, qualifiedPath_eq, List.append_assoc]
    exact startsIdentifier_append headWord.1 _
  rcases ends.scanPath_eq with ⟨complete, -⟩ | ⟨dangling, next, rfl⟩
  · rw [complete] at scanned rescanned
    simp only [Scan.behind, List.append_nil] at scanned rescanned
    rw [contents_path start scanned (List.append_assoc ..).symm,
      contents_path restart rescanned written]
    obtain ⟨c, front, taken, -⟩ := ne_nil_of_startsIdentifier word.1
    refine .name ⟨⟨first, words, word, more, rfl, rfl⟩, ?_⟩ (later rest ?_ ?_)
    · intro c member
      rw [String.toList_ofList] at member
      rw [← List.append_assoc] at all
      exact all c (List.mem_append_left _ member)
    · simp only [taken, List.length_append, List.length_cons]
      omega
    · exact fun c member =>
        all c (List.mem_append_right _ (List.mem_append_right _ member))
  · rw [dangling] at scanned rescanned
    obtain ⟨left, leftContents⟩ := contents_danglingPath start scanned
    obtain ⟨right, rightContents⟩ := contents_danglingPath restart rescanned
    rw [leftContents, rightContents]
    exact .refused

/-- A character that is a lexeme by itself is the same lexeme in both texts. -/
theorem agrees_symbol {c : Char} {rest : List Char} (noNumber : ¬startsNumber c rest)
    (noWord : ¬isIdentifierStart c) (later : Agrees vocabulary within rest)
    : Agrees vocabulary within (c :: rest) := by
  intro all
  have behind := later fun d member => all d (List.mem_cons_of_mem _ member)
  rw [pieces_other noNumber noWord, write]
  by_cases separates : isSeparator c
  · have noColon := (plain_of_isSeparator separates rest).2.2
    rw [contents_separator separates, contents_separator separates, if_neg noColon]
    exact behind
  · have renumber : ∀ colons, colons < 2
        → ¬startsNumber c (write vocabulary colons (pieces rest)) := by
      intro colons unqualified
      rwa [startsNumber_write vocabulary unqualified]
    rw [contents_symbol separates noNumber noWord,
      contents_symbol separates (renumber _ (by split <;> decide)) noWord]
    cases symbol : Token.ofSymbol? c with
    | none => exact .refused
    | some token =>
        have noColon : c ≠ ':' := by
          rintro rfl
          cases symbol
        rw [if_neg noColon]
        exact .same (ofSymbol?_ne_name symbol) behind

/-- A formula and what is written for it correspond: each lexeme is cut off at the same place in
both.
-/
theorem agrees (identifiers : ∀ name ∈ vocabulary.names, isIdentifier name) (text : List Char)
    : Agrees vocabulary within text := by
  refine induction_on_first ?_ (fun _ _ => agrees_number)
    (fun _ => agrees_path identifiers) (fun _ _ => agrees_symbol) text
  intro _
  rw [pieces_nil, write, contents_nil]
  exact .done

end

end FormulaCompiler
