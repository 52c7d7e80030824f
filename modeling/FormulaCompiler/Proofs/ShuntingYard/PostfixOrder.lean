import FormulaCompiler.Proofs.ShuntingYard.Completeness
import FormulaCompiler.Proofs.ShuntingYard.Soundness

/-! The stack of pending operators reads exactly the formulas of the grammar, and writes each of
them as the postorder of its tree.
-/

namespace FormulaCompiler.ShuntingYard

open Grammar

variable {tokens : List (Spanned Token)} {stop : Nat} {items : List PostfixItem}

/-- A formula is written as the postorder of its tree. Witness: the run passes over it from the
empty stack and leaves operators only.
-/
theorem postfixOrder_of_reads {formula : Formula} (reads : Reads .expr tokens formula [])
    (stop : Nat)
    : postfixOrder tokens stop = .ok formula.postorder := by
  have rests : Rests .expr [] := fun op _ => .nil _
  obtain ⟨written, operators, run, held, same⟩ :=
    passes_of_reads reads [] rests [] .operand (by decide)
  have drained : writeGroup written (operators ++ ([] ++ []))
      = ((itemsOf operators).reverse ++ written, []) := by
    refine writeWhile_append ?_ (.nil _) written
    intro top member
    obtain ⟨strength, known, _⟩ := held top member
    exact ⟨by rw [known]; rfl, rfl⟩
  have ended : State.initial.run tokens
      = .ok ⟨written, operators ++ ([] ++ []), .operator⟩ := run
  simp only [postfixOrder, ended, bind, Except.bind, State.finish, if_true, drained]
  simpa using same

/-- What is written is the postorder of a formula. -/
theorem reads_of_postfixOrder (accepted : postfixOrder tokens stop = .ok items)
    : ∃ formula, Reads .expr tokens formula [] ∧ formula.postorder = items := by
  unfold postfixOrder at accepted
  cases run : State.initial.run tokens with
  | error diagnostic =>
      rw [run] at accepted
      cases accepted
  | ok final =>
      rw [run] at accepted
      exact ((Follows.start tokens).run run).finish accepted

/-- Tokens are accepted exactly if all of them are one expression of the grammar, and what is
written is the postorder of its tree.
-/
theorem postfixOrder_eq_ok_iff (tokens : List (Spanned Token)) (stop : Nat)
    (items : List PostfixItem)
    : postfixOrder tokens stop = .ok items
      ↔ ∃ formula, Reads .expr tokens formula [] ∧ formula.postorder = items := by
  constructor
  · exact reads_of_postfixOrder
  · rintro ⟨formula, reads, rfl⟩
    exact postfixOrder_of_reads reads stop

end FormulaCompiler.ShuntingYard
