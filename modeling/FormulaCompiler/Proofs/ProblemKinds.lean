import FormulaCompiler.Diagnostic

/-! The kinds of problems. Each phase of a compilation finds problems of few kinds, and the kind
tells how bad they are.
-/

namespace FormulaCompiler

/-- What a problem is about: a piece of a text, the order of the pieces, what a name leads to, the
value of a piece, or what a backend has made.
-/
inductive ProblemKind where
  | spelling
  | order
  | name
  | value
  | artifact
deriving DecidableEq

namespace Problem

/-- The kind of a problem. That a body is no single expression has none, and neither has a report
that is made elsewhere.
-/
def kind? : Problem → Option ProblemKind
  | unexpectedCharacter _ | danglingSeparator | malformedNumber _ => some .spelling
  | missingOperand _ | unmatchedClose | unclosedOpen | unexpectedOperand _ | strayComma =>
    some .order
  | unknownName _ | unknownMember _ _ | unknownModule _ | wrongArgumentCount _ _ _
  | notCallable _ | functionAsValue _ => some .name
  | infiniteLiteral _ | zeroDivisor => some .value
  | memberNotFunction _ | missingEntryPoint _ => some .artifact
  | notOneExpression | other _ _ _ => none

variable {problem : Problem}

/-- Only problems of values are warnings at first. -/
theorem severity_of_kind? {kind : ProblemKind} (known : problem.kind? = some kind)
    (severe : kind ≠ .value)
    : problem.severity = .error := by
  cases problem with
  | infiniteLiteral _ | zeroDivisor =>
      cases known
      exact absurd rfl severe
  | other _ _ _ => cases known
  | _ => rfl

/-- A problem of some kind is not shown as a body that is no single expression. -/
theorem shown_ne_of_kind? (known : problem.kind?.isSome)
    : (problem.code, problem.message) ≠ ("CF0005", "the body is not a single expression") := by
  intro same
  obtain ⟨code, message⟩ := Prod.mk.inj same
  -- Two kinds of misplaced tokens share the code, and only their messages differ.
  cases problem with
  | unexpectedOperand token =>
      have letters := congrArg String.toList message
      unfold Problem.message at letters
      rw [String.toList_append, String.toList_append] at letters
      have first : some 'u' = some 't' := congrArg List.head? letters
      exact absurd first (by decide)
  | strayComma => exact absurd message (by decide)
  | notOneExpression | other _ _ _ => cases known
  | _ => simp [Problem.code] at code

end Problem

end FormulaCompiler
