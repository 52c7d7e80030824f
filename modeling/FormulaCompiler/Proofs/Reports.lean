import FormulaCompiler.Proofs.Analysis
import FormulaCompiler.Proofs.Lexing.Contents
import FormulaCompiler.Proofs.ShuntingYard.Refusals

/-! The reports of the checks of a body: all of them are of known kinds and none is escalated yet,
and where the checks leave no expression, one of them is an error. So reports alone decide whether a
unit is refused.
-/

namespace FormulaCompiler

-----------------------------------------------------------------------------------------
-- Raising reports
-----------------------------------------------------------------------------------------

namespace Diagnostic

theorem Fatal.isError {report : Diagnostic} (fatal : report.Fatal) : report.isError := by
  simp [Diagnostic.isError, Diagnostic.severity, fatal.plain, fatal.severity]

theorem problem_escalate (report : Diagnostic) : report.escalate.problem = report.problem := by
  unfold escalate
  split <;> rfl

theorem span_escalate (report : Diagnostic) : report.escalate.span = report.span := by
  unfold escalate
  split <;> rfl

theorem isError_escalate (report : Diagnostic) : report.escalate.isError := by
  unfold escalate
  split
  · assumption
  · rfl

/-- Once raised, every report is an error. -/
theorem hasErrors_map_escalate (reports : List Diagnostic)
    : hasErrors (reports.map escalate) ↔ reports ≠ [] := by
  cases reports with
  | nil => simp [hasErrors]
  | cons report rest => simp [hasErrors, isError_escalate]

end Diagnostic

-----------------------------------------------------------------------------------------
-- The reports of each phase
-----------------------------------------------------------------------------------------

/-- Whether a report is as the phases make it: they find problems of known kinds, and raise none. -/
structure Diagnostic.Original (report : Diagnostic) : Prop where
  known : report.problem.kind?.isSome
  plain : report.escalated = false

theorem Diagnostic.Fatal.original {report : Diagnostic} (fatal : report.Fatal)
    : report.Original :=
  ⟨Option.isSome_of_eq_some fatal.kind, fatal.plain⟩

theorem Lexeme.isSome_kind?_of_mem {text : String} {lexeme : Spanned Lexeme} {problem : Problem}
    (listed : lexeme ∈ scan text) (found : lexeme.content.problem? = some problem)
    : problem.kind?.isSome := by
  obtain ⟨content, span⟩ := lexeme
  cases content with
  | rejected failed =>
      cases found
      exact Option.isSome_of_eq_some (isLexical_of_mem listed).kind?
  | accepted token written =>
      cases token with
      | number value =>
          dsimp only [problem?] at found
          split at found <;> cases found
          rfl
      | _ => cases found

theorem original_of_mem_tokenize {text : String} {report : Diagnostic}
    (listed : report ∈ (tokenize text).diagnostics)
    : report.Original := by
  obtain ⟨lexeme, member, reported⟩ := List.mem_filterMap.mp listed
  obtain ⟨problem, found, rfl⟩ := Option.map_eq_some_iff.mp reported
  exact ⟨Lexeme.isSome_kind?_of_mem member found, rfl⟩

/-- By induction over the items: each of them reports at most one problem of its own. -/
theorem Scope.original_of_mem_bindOnto {scope : Scope} {stack : List Expr}
    {items : List PostfixItem} {report : Diagnostic}
    (listed : report ∈ (scope.bindOnto stack items).2)
    : report.Original := by
  induction items generalizing stack with
  | nil =>
      unfold bindOnto at listed
      split at listed <;> cases listed
  | cons item rest ih =>
      cases reduced : scope.reduce? stack item.content with
      | none =>
          rw [bindOnto, reduced] at listed
          cases listed
      | some reduction =>
          rw [bindOnto_cons reduced] at listed
          rcases List.mem_append.mp listed with found | later
          · obtain ⟨problem, own, rfl⟩ := List.mem_map.mp found
            rcases kind?_of_reduce? reduced (Option.mem_toList.mp own) with known | known
            · exact ⟨Option.isSome_of_eq_some known, rfl⟩
            · exact ⟨Option.isSome_of_eq_some known, rfl⟩
          · exact ih later

theorem Formula.original_of_mem_reports {scope : Scope} {formula : Formula} {report : Diagnostic}
    (listed : report ∈ formula.reports scope)
    : report.Original := by
  have bound := scope.bind_postorder formula
  rw [Scope.bind] at bound
  apply Scope.original_of_mem_bindOnto
  rw [bound]
  exact listed

-----------------------------------------------------------------------------------------
-- The checks of a unit
-----------------------------------------------------------------------------------------

namespace CodeUnit

/-- The checks stop behind the cutting or the grammar, or leave the bound tree of a formula. -/
theorem check_cases (unit : CodeUnit)
    : (Diagnostic.hasErrors (tokenize unit.body).diagnostics
        ∧ unit.check = (none, (tokenize unit.body).diagnostics))
      ∨ (∃ report : Diagnostic, report.Fatal
        ∧ unit.check = (none, (tokenize unit.body).diagnostics ++ [report]))
      ∨ ∃ formula : Formula,
          unit.check
            = (some (formula.bound unit.scope),
                (tokenize unit.body).diagnostics ++ formula.reports unit.scope) := by
  by_cases errors : Diagnostic.hasErrors (tokenize unit.body).diagnostics
  · exact .inl ⟨errors, if_pos errors⟩
  · refine .inr ?_
    cases order
      : ShuntingYard.postfixOrder (tokenize unit.body).tokens (byteLength unit.body.toList) with
    | error report =>
        refine .inl ⟨report, ShuntingYard.fatal_of_postfixOrder order, ?_⟩
        unfold check
        dsimp only
        rw [if_neg errors, order]
    | ok items =>
        obtain ⟨formula, reads, -⟩ := ShuntingYard.reads_of_postfixOrder order
        have clean := Bool.eq_false_iff.mpr errors
        exact .inr ⟨formula, check_of_readAs ⟨clean, reads⟩⟩

theorem original_of_mem_check {unit : CodeUnit} {report : Diagnostic}
    (listed : report ∈ unit.check.2)
    : report.Original := by
  rcases unit.check_cases with ⟨-, checked⟩ | ⟨last, fatal, checked⟩ | ⟨formula, checked⟩
  · rw [checked] at listed
    exact original_of_mem_tokenize listed
  · rw [checked] at listed
    rcases List.mem_append.mp listed with cut | same
    · exact original_of_mem_tokenize cut
    · rw [List.mem_singleton.mp same]
      exact fatal.original
  · rw [checked] at listed
    rcases List.mem_append.mp listed with cut | found
    · exact original_of_mem_tokenize cut
    · exact Formula.original_of_mem_reports found

theorem hasErrors_of_check_eq_none {unit : CodeUnit} (nothing : unit.check.1 = none)
    : Diagnostic.hasErrors unit.check.2 := by
  rcases unit.check_cases with ⟨errors, checked⟩ | ⟨last, fatal, checked⟩ | ⟨formula, checked⟩
  · rw [checked]
    exact errors
  · rw [checked]
    simp [Diagnostic.hasErrors, fatal.isError]
  · rw [checked] at nothing
    cases nothing

-----------------------------------------------------------------------------------------
-- The analysis of a unit
-----------------------------------------------------------------------------------------

/-- The reports of an analysis: those of the checks, raised where warnings are errors. -/
def reports (unit : CodeUnit) (options : CompileOptions) : List Diagnostic :=
  if options.warningsAsErrors then unit.check.2.map Diagnostic.escalate else unit.check.2

variable {unit : CodeUnit} {options : CompileOptions}

theorem hasErrors_reports_of_check (errors : Diagnostic.hasErrors unit.check.2)
    : Diagnostic.hasErrors (unit.reports options) := by
  unfold reports
  split
  · rw [Diagnostic.hasErrors_map_escalate]
    intro none
    rw [none] at errors
    cases errors
  · exact errors

theorem analyze_of_errors (errors : Diagnostic.hasErrors (unit.reports options))
    : unit.analyze options = .error (unit.reports options) := by
  unfold analyze
  dsimp only
  split
  · exact if_pos errors
  · rfl

/-- A unit whose reports are no errors is accepted, with an expression that does not depend on how
the reports are taken.
-/
theorem analyze_of_noErrors (clean : ¬Diagnostic.hasErrors (unit.reports options))
    : ∃ expr, unit.check.1 = some expr
        ∧ unit.analyze options
          = .ok {
              expr := if options.optimize then expr.fold else expr
              returnType := unit.function.returnType
              warnings := unit.reports options
            } := by
  cases checked : unit.check.1 with
  | none => exact absurd (hasErrors_reports_of_check (hasErrors_of_check_eq_none checked)) clean
  | some expr =>
      refine ⟨expr, rfl, ?_⟩
      unfold analyze
      dsimp only
      rw [checked]
      exact if_neg clean

end CodeUnit

end FormulaCompiler
