import FormulaCompiler.Lexeme
import FormulaCompiler.Proofs.ProblemKinds

/-! What the lexemes of a text are does not depend on where the text begins. -/

namespace FormulaCompiler.Lexeme

theorem scanFrom_separator {c : Char} (separates : isSeparator c) (position : Nat)
    (rest : List Char)
    : scanFrom position (c :: rest) = scanFrom (position + c.utf8Size) rest := by
  rw [scanFrom, if_pos separates]

theorem scanFrom_first {position : Nat} {c : Char} {rest taken behind : List Char}
    {lexeme : Lexeme} (plain : ¬isSeparator c) (found : first c rest = (lexeme, taken))
    (parts : c :: rest = taken ++ behind)
    : scanFrom position (c :: rest)
      = ⟨lexeme, .ofLength position (byteLength taken)⟩
        :: scanFrom (position + byteLength taken) behind := by
  have left : rest.drop (taken.length - 1) = behind :=
    List.append_cancel_left ((parts_of_first found).symm.trans parts)
  rw [scanFrom, if_neg plain]
  dsimp only
  rw [found, left]

theorem map_content_scanFrom (first second : Nat) (text : List Char)
    : (scanFrom first text).map (·.content) = (scanFrom second text).map (·.content) := by
  cases text with
  | nil => rw [scanFrom, scanFrom]
  | cons c rest =>
      rw [scanFrom, scanFrom]
      split
      · exact map_content_scanFrom _ _ rest
      · dsimp only
        rw [List.map_cons, List.map_cons]
        exact congrArg _ (map_content_scanFrom _ _ _)
termination_by text.length
decreasing_by all_goals simp only [List.length_cons, List.length_drop]; omega

/-- The lexemes of a text, without their places. -/
def contents (text : List Char) : List Lexeme :=
  (scanFrom 0 text).map (·.content)

@[simp] theorem contents_nil : contents [] = [] := by
  rw [contents, scanFrom]
  rfl

theorem contents_separator {c : Char} (separates : isSeparator c) (rest : List Char)
    : contents (c :: rest) = contents rest := by
  rw [contents, scanFrom_separator separates]
  exact map_content_scanFrom _ _ _

/-- The first lexeme is followed by those of the text that it leaves. -/
theorem contents_first {c : Char} {rest taken behind : List Char} {lexeme : Lexeme}
    (plain : ¬isSeparator c) (found : first c rest = (lexeme, taken))
    (parts : c :: rest = taken ++ behind)
    : contents (c :: rest) = lexeme :: contents behind := by
  rw [contents, scanFrom_first plain found parts, List.map_cons]
  exact congrArg _ (map_content_scanFrom _ _ _)

-----------------------------------------------------------------------------------------
-- What is reported and what is kept
-----------------------------------------------------------------------------------------

theorem map_problem_diagnostics (text : String)
    : (tokenize text).diagnostics.map (·.problem) = (contents text.toList).filterMap problem? := by
  unfold tokenize contents scan
  rw [List.map_filterMap, List.filterMap_map]
  congr 1
  funext lexeme
  rw [Option.map_map]
  exact Option.map_id'

/-- Whether a problem is one of those that make a piece of a text no token. -/
inductive IsLexical : Problem → Prop
  | unexpectedCharacter (c) : IsLexical (.unexpectedCharacter c)
  | danglingSeparator : IsLexical .danglingSeparator
  | malformedNumber (text) : IsLexical (.malformedNumber text)

theorem IsLexical.kind? {problem : Problem} (lexical : IsLexical problem)
    : problem.kind? = some .spelling := by
  cases lexical <;> rfl

theorem IsLexical.severity {problem : Problem} (lexical : IsLexical problem)
    : problem.severity = .error :=
  Problem.severity_of_kind? lexical.kind? (by decide)

theorem isLexical_of_first {c : Char} {rest taken : List Char} {problem : Problem}
    (found : first c rest = (rejected problem, taken))
    : IsLexical problem := by
  unfold first at found
  split at found
  · unfold number at found
    dsimp only at found
    split at found
    · split at found <;> cases found
      exact .malformedNumber _
    · cases found
      exact .malformedNumber _
  · split at found
    · unfold path at found
      dsimp only at found
      split at found <;> cases found
      exact .danglingSeparator
    · split at found <;> cases found
      exact .unexpectedCharacter _

theorem isLexical_of_mem {position : Nat} {text : List Char} {problem : Problem} {span : Span}
    (listed : ⟨rejected problem, span⟩ ∈ scanFrom position text)
    : IsLexical problem := by
  fun_induction scanFrom position text with
  | case1 => cases listed
  | case2 position c rest separates ih => exact ih listed
  | case3 position c rest plain lexeme taken found length ih =>
      rcases List.mem_cons.mp listed with same | later
      · obtain ⟨rfl, -⟩ := Spanned.mk.inj same
        exact isLexical_of_first found
      · exact ih later

theorem isLexical_of_mem_contents {text : List Char} {problem : Problem}
    (listed : rejected problem ∈ contents text)
    : IsLexical problem := by
  obtain ⟨⟨content, span⟩, member, rfl⟩ := List.mem_map.mp listed
  exact isLexical_of_mem member

/-- Cutting a text reports an error exactly if some lexeme is no token. -/
theorem hasErrors_tokenize (text : String)
    : Diagnostic.hasErrors (tokenize text).diagnostics
      ↔ ∃ problem, rejected problem ∈ contents text.toList := by
  unfold Diagnostic.hasErrors tokenize contents scan
  rw [List.any_eq_true]
  constructor
  · rintro ⟨diagnostic, listed, isError⟩
    obtain ⟨lexeme, member, reported⟩ := List.mem_filterMap.mp listed
    obtain ⟨problem, found, rfl⟩ := Option.map_eq_some_iff.mp reported
    refine ⟨problem, List.mem_map.mpr ⟨lexeme, member, ?_⟩⟩
    unfold problem? at found
    split at found
    · split at found
      · obtain rfl := Option.some.inj found
        cases isError
      · cases found
    · cases found
    · rename_i same
      rw [same, Option.some.inj found]
  · rintro ⟨problem, listed⟩
    obtain ⟨⟨_, span⟩, member, rfl⟩ := List.mem_map.mp listed
    refine ⟨{ problem, span }, List.mem_filterMap.mpr ⟨_, member, rfl⟩, ?_⟩
    exact decide_eq_true (isLexical_of_mem member).severity

end FormulaCompiler.Lexeme
