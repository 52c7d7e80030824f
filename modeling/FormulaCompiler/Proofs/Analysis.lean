import FormulaCompiler.Analysis
import FormulaCompiler.Proofs.Binding
import FormulaCompiler.Proofs.Folding
import FormulaCompiler.Proofs.ShuntingYard.PostfixOrder

/-! What the checks of a body come to, in terms of the tree that its tokens are read as. -/

namespace FormulaCompiler.CodeUnit

open Grammar

variable {unit : CodeUnit}

/-- The body of a unit is cut without an error, and its tokens are read as a formula. -/
structure ReadAs (unit : CodeUnit) (formula : Formula) : Prop where
  clean : Diagnostic.hasErrors (tokenize unit.body).diagnostics = false
  reads : Reads .expr (tokenize unit.body).tokens formula []

/-- The checks of a body that is read as a formula come to the bound tree of that formula. -/
theorem check_of_readAs {formula : Formula} (readAs : unit.ReadAs formula)
    : unit.check
      = (some (formula.bound unit.scope),
          (tokenize unit.body).diagnostics ++ formula.reports unit.scope) := by
  have clean : ¬Diagnostic.hasErrors (tokenize unit.body).diagnostics := by
    rw [readAs.clean]
    exact Bool.false_ne_true
  unfold check
  dsimp only
  rw [if_neg clean, ShuntingYard.postfixOrder_of_reads readAs.reads]
  dsimp only
  rw [Scope.bind_postorder]

/-- A body of which the checks leave an expression is read as some formula. -/
theorem readAs_of_check {expr : Expr} {found : List Diagnostic}
    (checked : unit.check = (some expr, found))
    : ∃ formula, unit.ReadAs formula := by
  unfold check at checked
  dsimp only at checked
  split at checked
  · cases checked
  · rename_i clean
    split at checked
    · cases checked
    · rename_i items accepted
      obtain ⟨formula, reads, -⟩ := ShuntingYard.reads_of_postfixOrder accepted
      exact ⟨formula, by simpa using clean, reads⟩

variable {options : CompileOptions}

theorem analyze_of_check {expr : Expr} {found : List Diagnostic}
    (lenient : options.warningsAsErrors = false) (checked : unit.check = (some expr, found))
    : unit.analyze options
      = if Diagnostic.hasErrors found then .error found
        else
          .ok {
            expr := if options.optimize then expr.fold else expr
            returnType := unit.function.returnType
            warnings := found
          } := by
  unfold analyze
  rw [lenient, checked]
  rfl

theorem exists_check_of_analyze {analysis : Analysis}
    (accepted : unit.analyze options = .ok analysis)
    : ∃ expr found, unit.check = (some expr, found) := by
  unfold analyze at accepted
  dsimp only at accepted
  split at accepted
  · rename_i expr checked
    exact ⟨expr, _, Prod.ext checked rfl⟩
  · cases accepted

theorem bound_of_analyze (lenient : options.warningsAsErrors = false) {formula : Formula}
    (readAs : unit.ReadAs formula) {analysis : Analysis}
    (accepted : unit.analyze options = .ok analysis)
    : Diagnostic.hasErrors (formula.reports unit.scope) = false := by
  rw [analyze_of_check lenient (check_of_readAs readAs), Diagnostic.hasErrors_append,
    readAs.clean, Bool.false_or] at accepted
  cases errors : Diagnostic.hasErrors (formula.reports unit.scope) with
  | false => rfl
  | true =>
      rw [errors] at accepted
      cases accepted

/-- Where warnings pass, a unit is accepted exactly if its body is read as a formula that is bound
without an error.
-/
theorem analyze_iff (lenient : options.warningsAsErrors = false)
    : (∃ analysis, unit.analyze options = .ok analysis)
      ↔ ∃ formula, unit.ReadAs formula
          ∧ Diagnostic.hasErrors (formula.reports unit.scope) = false := by
  constructor
  · rintro ⟨analysis, accepted⟩
    obtain ⟨expr, found, checked⟩ := exists_check_of_analyze accepted
    obtain ⟨formula, readAs⟩ := readAs_of_check checked
    exact ⟨formula, readAs, bound_of_analyze lenient readAs accepted⟩
  · rintro ⟨formula, readAs, bound⟩
    rw [analyze_of_check lenient (check_of_readAs readAs), Diagnostic.hasErrors_append,
      readAs.clean, bound]
    exact ⟨_, rfl⟩

/-- What is accepted has the values of the bound tree, whether it was folded or not. -/
theorem analyze_of_readAs {formula : Formula} (readAs : unit.ReadAs formula)
    {analysis : Analysis} (accepted : unit.analyze options = .ok analysis)
    : analysis.returnType = unit.function.returnType
      ∧ ∀ x, analysis.expr.eval x = (formula.bound unit.scope).eval x := by
  unfold analyze at accepted
  rw [check_of_readAs readAs] at accepted
  dsimp only at accepted
  generalize (if options.warningsAsErrors then _ else _) = diagnostics at accepted
  split at accepted
  · cases accepted
  · obtain rfl := Except.ok.inj accepted
    refine ⟨rfl, fun x => ?_⟩
    dsimp only
    split
    · exact Expr.eval_fold _ x
    · rfl

end FormulaCompiler.CodeUnit
