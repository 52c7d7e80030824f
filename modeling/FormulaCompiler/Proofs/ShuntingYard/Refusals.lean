import FormulaCompiler.Proofs.ProblemKinds
import FormulaCompiler.Proofs.ShuntingYard.Soundness

/-! What ends the reading of tokens into postfix order is an error of their order, whichever token
is to blame.
-/

namespace FormulaCompiler

/-- Whether a report is an error of the order of tokens, without being raised to one. -/
structure Diagnostic.Fatal (report : Diagnostic) : Prop where
  kind : report.problem.kind? = some .order
  plain : report.escalated = false

theorem Diagnostic.Fatal.severity {report : Diagnostic} (fatal : report.Fatal)
    : report.problem.severity = .error :=
  Problem.severity_of_kind? fatal.kind (by decide)

theorem exists_error_of_bind {ε α β : Type} {first : Except ε α} {next : α → Except ε β}
    {found : ε} (refused : first >>= next = .error found)
    : first = .error found ∨ ∃ value, next value = .error found := by
  cases first with
  | error other =>
      cases refused
      exact .inl rfl
  | ok value => exact .inr ⟨value, refused⟩

namespace ShuntingYard

variable {state : State} {report : Diagnostic}

namespace State

theorem fatal_of_operand {token : Token} {node : PostfixNode} {span : Span}
    (refused : state.operand token node span = .error report)
    : report.Fatal := by
  unfold operand at refused
  split at refused <;> cases refused
  exact ⟨rfl, rfl⟩

theorem fatal_of_opening {token : Spanned Token} {pending : Pending}
    (refused : state.opening token pending = .error report)
    : report.Fatal := by
  unfold opening at refused
  split at refused <;> cases refused
  exact ⟨rfl, rfl⟩

theorem fatal_of_operator {op : Operator} {span : Span}
    (refused : state.operator op span = .error report)
    : report.Fatal := by
  unfold operator at refused
  split at refused
  · cases refused
  · split at refused <;> cases refused
    exact ⟨rfl, rfl⟩

theorem fatal_of_comma {span : Span} (refused : state.comma span = .error report)
    : report.Fatal := by
  unfold comma at refused
  split at refused
  · split at refused <;> cases refused
    exact ⟨rfl, rfl⟩
  · cases refused
    exact ⟨rfl, rfl⟩

theorem fatal_of_closing {span : Span} (refused : state.closing span = .error report)
    : report.Fatal := by
  unfold closing at refused
  split at refused
  · cases refused
    exact ⟨rfl, rfl⟩
  · dsimp only at refused
    split at refused
    · split at refused <;> cases refused
      exact ⟨rfl, rfl⟩
    · cases refused
    · cases refused
      exact ⟨rfl, rfl⟩

theorem fatal_of_step {token : Spanned Token} (refused : state.step token = .error report)
    : report.Fatal := by
  unfold step at refused
  split at refused
  · exact fatal_of_operand refused
  · exact fatal_of_operand refused
  · exact fatal_of_operator refused
  · exact fatal_of_opening refused
  · exact fatal_of_closing refused
  · exact fatal_of_comma refused

/-- By induction along the run: the first token that is refused is to blame. -/
theorem fatal_of_run {tokens : List (Spanned Token)} (refused : state.run tokens = .error report)
    : report.Fatal := by
  fun_induction run state tokens with
  | case1 => cases refused
  | case2 state path span openSpan rest ih =>
      rcases exists_error_of_bind refused with opened | ⟨next, later⟩
      · exact fatal_of_opening opened
      · exact ih next later
  | case3 state token rest _ ih =>
      rcases exists_error_of_bind refused with stepped | ⟨next, later⟩
      · exact fatal_of_step stepped
      · exact ih next later

theorem fatal_of_finish {stop : Nat} (refused : state.finish stop = .error report)
    : report.Fatal := by
  unfold finish at refused
  split at refused
  · split at refused <;> cases refused
    exact ⟨rfl, rfl⟩
  · cases refused
    exact ⟨rfl, rfl⟩

end State

theorem fatal_of_postfixOrder {tokens : List (Spanned Token)} {stop : Nat}
    (refused : postfixOrder tokens stop = .error report)
    : report.Fatal := by
  rcases exists_error_of_bind refused with run | ⟨final, ended⟩
  · exact State.fatal_of_run run
  · exact State.fatal_of_finish ended

end ShuntingYard

end FormulaCompiler
