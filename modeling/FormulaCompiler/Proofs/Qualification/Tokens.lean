import FormulaCompiler.Proofs.Qualification.Lexemes
import FormulaCompiler.Proofs.Renaming

/-! The tokens of a formula and of the qualified formula, for every vocabulary of identifiers. They
agree one by one apart from the spelling of paths, and so do the reports about them, as long as
every piece of the formula is a token.
-/

namespace FormulaCompiler

-----------------------------------------------------------------------------------------
-- The spelling of paths
-----------------------------------------------------------------------------------------

namespace Vocabulary

/-- The segments that a path is qualified to. The known ones get the spelling of the vocabulary, and
the module of the library goes in front where the first one is known.
-/
def qualifySegments (vocabulary : Vocabulary) (segments : List String) : List String :=
  let spelled := segments.map fun segment => (vocabulary.canonical? segment).getD segment
  match segments.head?.bind vocabulary.canonical? with
  | some _ => Library.moduleName :: spelled
  | none => spelled

/-- Whether a path, segment by segment, is qualified to another one. -/
def QualifiesPath (vocabulary : Vocabulary) (path other : String) : Prop :=
  ∃ segments, segments ≠ [] ∧ (∀ segment ∈ segments, isIdentifier segment)
    ∧ path = "::".intercalate segments
    ∧ other = "::".intercalate (vocabulary.qualifySegments segments)

end Vocabulary

theorem ofList_spelling (vocabulary : Vocabulary) (word : List Char)
    : String.ofList (Qualification.spelling vocabulary true word)
      = (vocabulary.canonical? (String.ofList word)).getD (String.ofList word) := by
  cases known : vocabulary.canonical? (String.ofList word) <;>
    simp [Qualification.spelling, known]

/-- The words that are written for a path are the segments that it is qualified to. -/
theorem map_qualifiedWords (vocabulary : Vocabulary) (first : List Char)
    (words : List (List Char))
    : ((Qualification.qualifiedWords vocabulary first words).1
          :: (Qualification.qualifiedWords vocabulary first words).2).map String.ofList
      = vocabulary.qualifySegments ((first :: words).map String.ofList) := by
  have spelled : (words.map (Qualification.spelling vocabulary true)).map String.ofList
      = (words.map String.ofList).map fun segment =>
          (vocabulary.canonical? segment).getD segment := by
    simp [ofList_spelling]
  cases known : vocabulary.canonical? (String.ofList first) <;>
    simp_all [Qualification.qualifiedWords, Vocabulary.qualifySegments]

theorem Qualification.Qualifies.path {vocabulary : Vocabulary} {path other : String}
    (qualifies : Qualifies vocabulary path other)
    : vocabulary.QualifiesPath path other := by
  obtain ⟨first, words, word, more, rfl, rfl⟩ := qualifies
  refine ⟨(first :: words).map String.ofList, by simp, ?_, (intercalate_words first words).symm, ?_⟩
  · intro segment member
    obtain ⟨text, listed, rfl⟩ := List.mem_map.mp member
    rw [← isWord_iff_isIdentifier, String.toList_ofList]
    rcases List.mem_cons.mp listed with rfl | later
    · exact word
    · exact more text later
  · rw [← map_qualifiedWords, intercalate_words, qualifiedPath_eq]

-----------------------------------------------------------------------------------------
-- Lexemes one by one
-----------------------------------------------------------------------------------------

namespace Lexeme

variable {renamed : String → String → Prop}

/-- Whether two lexemes are the same token, where names stand for each other as (renamed) says. What
is no name is also written the same.
-/
inductive Renames (renamed : String → String → Prop) : Lexeme → Lexeme → Prop
  | same {token text} (plain : ∀ path, token ≠ .name path)
      : Renames renamed (accepted token text) (accepted token text)
  | name {path other} (related : renamed path other)
      : Renames renamed (accepted (.name path) path) (accepted (.name other) other)

namespace Corresponds

variable {left right : List Lexeme}

theorem mono {related : String → String → Prop}
    (implies : ∀ path other, renamed path other → related path other)
    (corresponds : Corresponds renamed left right)
    : Corresponds related left right := by
  induction corresponds with
  | done => exact .done
  | same plain _ ih => exact .same plain ih
  | name renames _ ih => exact .name (implies _ _ renames) ih
  | refused => exact .refused

theorem rejected_iff (corresponds : Corresponds renamed left right)
    : (∃ problem, rejected problem ∈ left) ↔ ∃ problem, rejected problem ∈ right := by
  induction corresponds with
  | done => rfl
  | same _ _ ih => simpa using ih
  | name _ _ ih => simpa using ih
  | refused => exact iff_of_true ⟨_, List.mem_cons_self⟩ ⟨_, List.mem_cons_self⟩

/-- Where every lexeme is a token, the correspondence reaches to the last one. -/
theorem renames (corresponds : Corresponds renamed left right)
    (clean : ¬∃ problem, rejected problem ∈ left)
    : List.Forall₂ (Renames renamed) left right := by
  induction corresponds with
  | done => exact .nil
  | same plain _ ih => exact .cons (.same plain) (ih (by simpa using clean))
  | name related _ ih => exact .cons (.name related) (ih (by simpa using clean))
  | refused => exact absurd ⟨_, List.mem_cons_self⟩ clean

end Corresponds

/-- The tokens among lexemes. -/
def tokens (lexemes : List (Spanned Lexeme)) : List (Spanned Token) :=
  lexemes.filterMap fun lexeme => lexeme.content.token?.map fun token => ⟨token, lexeme.span⟩

/-- What there is to report about lexemes. -/
def reports (lexemes : List (Spanned Lexeme)) : List Diagnostic :=
  lexemes.filterMap fun lexeme =>
    lexeme.content.problem?.map fun problem => { problem, span := lexeme.span }

@[simp] theorem tokens_accepted (token : Token) (text : String) (span : Span)
    (rest : List (Spanned Lexeme))
    : tokens (⟨accepted token text, span⟩ :: rest) = ⟨token, span⟩ :: tokens rest := rfl

@[simp] theorem reports_cons (lexeme : Spanned Lexeme) (rest : List (Spanned Lexeme))
    : reports (lexeme :: rest)
      = (lexeme.content.problem?.toList.map fun problem => { problem, span := lexeme.span })
        ++ reports rest := by
  cases said : lexeme.content.problem? <;> simp [reports, said]

/-- Whether two reports say the same about tokens that have the same place in two lists. -/
def ReportsAlike (before after : List (Spanned Token)) (report other : Diagnostic) : Prop :=
  report.problem = other.problem
  ∧ ∃ pair ∈ before.zip after, pair.1.span = report.span ∧ pair.2.span = other.span

theorem ReportsAlike.cons {before after : List (Spanned Token)} {report other : Diagnostic}
    (alike : ReportsAlike before after report other) (token token' : Spanned Token)
    : ReportsAlike (token :: before) (token' :: after) report other := by
  obtain ⟨same, pair, listed, places⟩ := alike
  exact ⟨same, pair, List.mem_cons_of_mem _ listed, places⟩

/-- Whether lexemes of two texts are the same one by one, wherever they stand. -/
def AllRename (renamed : String → String → Prop) (left right : List (Spanned Lexeme)) : Prop :=
  List.Forall₂ (fun lexeme other => lexeme.content.Renames renamed other.content) left right

namespace AllRename

variable {left right : List (Spanned Lexeme)}

theorem tokens (alike : AllRename renamed left right)
    : TokensRename renamed (Lexeme.tokens left) (Lexeme.tokens right) := by
  induction alike with
  | nil => exact .nil
  | @cons lexeme other _ _ head _ ih =>
      obtain ⟨content, span⟩ := lexeme
      obtain ⟨content', span'⟩ := other
      cases head with
      | same plain => exact .cons (.same plain) ih
      | name related => exact .cons (.name related) ih

theorem reports (alike : AllRename renamed left right)
    : List.Forall₂ (ReportsAlike (Lexeme.tokens left) (Lexeme.tokens right))
        (Lexeme.reports left) (Lexeme.reports right) := by
  induction alike with
  | nil => exact .nil
  | @cons lexeme other rest rest' head _ ih =>
      obtain ⟨content, span⟩ := lexeme
      obtain ⟨content', span'⟩ := other
      cases head with
      | @same token text _ =>
          have later := ih.imp fun _ _ found => found.cons ⟨token, span⟩ ⟨token, span'⟩
          cases said : problem? (accepted token text) with
          | none => simpa [said] using later
          | some problem =>
              have first
                  : ReportsAlike (⟨token, span⟩ :: Lexeme.tokens rest)
                      (⟨token, span'⟩ :: Lexeme.tokens rest') { problem, span }
                      { problem, span := span' } :=
                ⟨rfl, _, List.mem_cons_self, rfl, rfl⟩
              simpa [said] using And.intro first later
      | @name path other _ =>
          exact ih.imp fun _ _ found => found.cons ⟨.name path, span⟩ ⟨.name other, span'⟩

end AllRename

-----------------------------------------------------------------------------------------
-- Texts cut into tokens
-----------------------------------------------------------------------------------------

section

variable {text other : String}
  (corresponds : Corresponds renamed (contents text.toList) (contents other.toList))

include corresponds

theorem Corresponds.hasErrors_eq
    : Diagnostic.hasErrors (tokenize other).diagnostics
      = Diagnostic.hasErrors (tokenize text).diagnostics := by
  rw [Bool.eq_iff_iff, hasErrors_tokenize, hasErrors_tokenize]
  exact corresponds.rejected_iff.symm

theorem Corresponds.allRename (clean : Diagnostic.hasErrors (tokenize text).diagnostics = false)
    : AllRename renamed (scan text) (scan other) := by
  have noError : ¬∃ problem, rejected problem ∈ contents text.toList := by
    simp [← hasErrors_tokenize, clean]
  have alike := corresponds.renames noError
  rwa [contents, contents, List.forall₂_map_left_iff, List.forall₂_map_right_iff] at alike

end

end Lexeme

namespace Qualification

/-- Qualifying a formula neither adds nor removes all errors of cutting it. Where there are none,
it has the same tokens one by one, apart from names: those are qualified segment by segment. It then
has the same reports too, which are warnings, each about the same token as before. Witness: the
formula and what is written for it are cut at the same places.
-/
theorem tokenize_qualify (vocabulary : Vocabulary)
    (identifiers : ∀ name ∈ vocabulary.names, isIdentifier name) (formula : String)
    : let before := tokenize (lowercase formula)
      let after := tokenize (qualify formula vocabulary .tokens)
      Diagnostic.hasErrors after.diagnostics = Diagnostic.hasErrors before.diagnostics
      ∧ (Diagnostic.hasErrors before.diagnostics = false
        → TokensRename vocabulary.QualifiesPath before.tokens after.tokens
          ∧ List.Forall₂ (Lexeme.ReportsAlike before.tokens after.tokens)
              before.diagnostics after.diagnostics) := by
  have anywhere : Agrees vocabulary (fun _ => True) (lowercase formula).toList :=
    agrees identifiers _
  have corresponds
      : Lexeme.Corresponds vocabulary.QualifiesPath
          (Lexeme.contents (lowercase formula).toList)
          (Lexeme.contents (qualify formula vocabulary .tokens).toList) := by
    rw [qualify, String.toList_ofList]
    exact (anywhere fun _ _ => trivial).mono fun _ _ related => related.1.path
  refine ⟨corresponds.hasErrors_eq, fun clean => ?_⟩
  have alike := corresponds.allRename clean
  exact ⟨alike.tokens, alike.reports⟩

theorem tokenize_qualify_sin
    : let vocabulary := Vocabulary.ofNames ["sin", "PI"]
      let before := tokenize (lowercase "Sin(1E999) / x::pI")
      let after := tokenize (qualify "Sin(1E999) / x::pI" vocabulary .tokens)
      (∀ name ∈ vocabulary.names, isIdentifier name)
      ∧ Diagnostic.hasErrors before.diagnostics = false
      ∧ TokensRename vocabulary.QualifiesPath before.tokens after.tokens
      ∧ List.Forall₂ (Lexeme.ReportsAlike before.tokens after.tokens)
          before.diagnostics after.diagnostics := by
  have identifiers : ∀ name ∈ (Vocabulary.ofNames ["sin", "PI"]).names, isIdentifier name := by
    decide
  have clean
      : Diagnostic.hasErrors (tokenize (lowercase "Sin(1E999) / x::pI")).diagnostics = false := by
    decide +kernel
  exact ⟨identifiers, clean, (tokenize_qualify _ identifiers _).2 clean⟩

end Qualification

end FormulaCompiler
