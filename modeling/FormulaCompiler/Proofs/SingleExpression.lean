import FormulaCompiler.Proofs.Reports

/-! Whatever is read into postfix order can be bound: its items put exactly one expression on the
stack, whether its names are resolved or not. So no unit is refused for a body that was read but is
no single expression.
-/

namespace FormulaCompiler

open ShuntingYard

-----------------------------------------------------------------------------------------
-- Items and their expression
-----------------------------------------------------------------------------------------

theorem exists_expr_of_postfixOrder {tokens : List (Spanned Token)} {stop : Nat}
    {items : List PostfixItem} (accepted : postfixOrder tokens stop = .ok items) (scope : Scope)
    : ∃ expr, (scope.bind items).1 = some expr := by
  obtain ⟨formula, -, rfl⟩ := reads_of_postfixOrder accepted
  exact ⟨formula.bound scope, congrArg Prod.fst (scope.bind_postorder formula)⟩

-----------------------------------------------------------------------------------------
-- The reports of an analysis
-----------------------------------------------------------------------------------------

namespace CodeUnit

variable {unit : CodeUnit} {options : CompileOptions}

/-- Raising a report does not change its problem, so every report is of a known kind. -/
theorem isSome_kind?_of_mem_reports {report : Diagnostic} (listed : report ∈ unit.reports options)
    : report.problem.kind?.isSome := by
  unfold reports at listed
  split at listed
  · obtain ⟨original, member, rfl⟩ := List.mem_map.mp listed
    rw [Diagnostic.problem_escalate]
    exact (original_of_mem_check member).known
  · exact (original_of_mem_check listed).known

/-- Accepted or refused, an analysis gives away the reports of the unit. -/
theorem analyze_reports (unit : CodeUnit) (options : CompileOptions)
    : match unit.analyze options with
      | .ok analysis => analysis.warnings = unit.reports options
      | .error found => found = unit.reports options := by
  by_cases errors : Diagnostic.hasErrors (unit.reports options)
  · rw [analyze_of_errors errors]
  · obtain ⟨expr, -, accepted⟩ := analyze_of_noErrors errors
    rw [accepted]

end CodeUnit

/-- Binding never fails behind the grammar: whatever tokens are read into postfix order, their items
are bound to an expression in every scope, and no analysis reports that a body is no single
expression. Witness: the items are the postorder of a tree, of which every node takes from the stack
what its operands have put there.
-/
theorem binds_whatever_is_read
    : (∀ (tokens : List (Spanned Token)) (stop : Nat) (items : List PostfixItem) (scope : Scope),
        postfixOrder tokens stop = .ok items → ∃ expr, (scope.bind items).1 = some expr)
      ∧ ∀ (unit : CodeUnit) (options : CompileOptions),
          match unit.analyze options with
          | .ok analysis =>
              ∀ report ∈ analysis.warnings,
                (report.problem.code, report.problem.message)
                  ≠ ("CF0005", "the body is not a single expression")
          | .error found =>
              ∀ report ∈ found,
                (report.problem.code, report.problem.message)
                  ≠ ("CF0005", "the body is not a single expression") := by
  constructor
  · intro tokens stop items scope accepted
    exact exists_expr_of_postfixOrder accepted scope
  · intro unit options
    have known (report : Diagnostic) (listed : report ∈ unit.reports options) :=
      Problem.shown_ne_of_kind? (CodeUnit.isSome_kind?_of_mem_reports listed)
    have all := unit.analyze_reports options
    split at all <;> rw [all] <;> exact known

/-- The items of -f((x)^-g(), y) are bound where none of its names is known. -/
theorem binds_unknown_calls
    : ∃ items,
        postfixOrder
            [⟨.operator .subtract, ⟨0, 1⟩⟩, ⟨.name "f", ⟨1, 2⟩⟩, ⟨.openParen, ⟨2, 3⟩⟩,
              ⟨.openParen, ⟨3, 4⟩⟩, ⟨.name "x", ⟨4, 5⟩⟩, ⟨.closeParen, ⟨5, 6⟩⟩,
              ⟨.operator .power, ⟨6, 7⟩⟩, ⟨.operator .subtract, ⟨7, 8⟩⟩, ⟨.name "g", ⟨8, 9⟩⟩,
              ⟨.openParen, ⟨9, 10⟩⟩, ⟨.closeParen, ⟨10, 11⟩⟩, ⟨.comma, ⟨11, 12⟩⟩,
              ⟨.name "y", ⟨13, 14⟩⟩, ⟨.closeParen, ⟨14, 15⟩⟩]
            15
          = .ok items
        ∧ ∃ expr, (Scope.bind { parameter := "t", imports := [] } items).1 = some expr := by
  refine Exists.imp (fun items accepted => ⟨accepted, ?_⟩) ⟨_, rfl⟩
  exact binds_whatever_is_read.1 _ 15 items _ accepted

end FormulaCompiler
