import FormulaCompiler.Proofs.ShuntingYard.PostfixOrder
import FormulaCompiler.Proofs.ShuntingYard.Runs

/-! The openings that wait on the stack are those that the tokens leave unclosed. Closing them all
ends the formula, so whatever a run passes over is the beginning of an expression.
-/

namespace FormulaCompiler.ShuntingYard

open Grammar

/-- The opening that waits, if it is one. -/
def Pending.opening? : Pending → Option Opening
  | .group span => some (.group span)
  | .call _ span _ => some (.call span)
  | .negate _ | .operator _ _ => none

/-- The openings among what waits, the innermost first. -/
def openingsOf (pending : List Pending) : List Opening :=
  pending.filterMap Pending.opening?

@[simp] theorem openingsOf_nil : openingsOf [] = [] := rfl

@[simp] theorem openingsOf_negate (span : Span) (pending : List Pending)
    : openingsOf (.negate span :: pending) = openingsOf pending := rfl

@[simp] theorem openingsOf_operator (op : Operator) (span : Span) (pending : List Pending)
    : openingsOf (.operator op span :: pending) = openingsOf pending := rfl

@[simp] theorem openingsOf_group (span : Span) (pending : List Pending)
    : openingsOf (.group span :: pending) = .group span :: openingsOf pending := rfl

@[simp] theorem openingsOf_call (path : String) (span : Span) (commas : Nat)
    (pending : List Pending)
    : openingsOf (.call path span commas :: pending) = .call span :: openingsOf pending := rfl

/-- Writing operators leaves all openings, by induction over what waits. -/
theorem openingsOf_writeWhile (leaves : Pending → Bool) (output : List PostfixItem)
    (pending : List Pending)
    : openingsOf (writeWhile leaves output pending).2 = openingsOf pending := by
  fun_induction writeWhile leaves output pending with
  | case1 output => rfl
  | case2 output top rest item isItem leaving ih =>
      rw [ih]
      cases top with
      | negate span | operator op span => rfl
      | group span | call path span commas => cases isItem
  | case3 output top rest item isItem staying => rfl
  | case4 output top rest isOpening => rfl

/-- What stands on top when a whole group is written: nothing or the innermost opening. -/
inductive Uncovers (pending : List Pending) : List Pending → Prop
  | nothing (closed : openingsOf pending = []) : Uncovers pending []
  | group {span rest} (innermost : openingsOf pending = .group span :: openingsOf rest)
    : Uncovers pending (.group span :: rest)
  | call {path span commas rest} (innermost : openingsOf pending = .call span :: openingsOf rest)
    : Uncovers pending (.call path span commas :: rest)

theorem Uncovers.of_same {pending other shown : List Pending} (uncovers : Uncovers pending shown)
    (same : openingsOf other = openingsOf pending)
    : Uncovers other shown := by
  cases uncovers with
  | nothing closed => exact .nothing (same.trans closed)
  | group innermost => exact .group (same.trans innermost)
  | call innermost => exact .call (same.trans innermost)

/-- By induction over what waits: operators are written until an opening is on top. -/
theorem uncovers_writeGroup (output : List PostfixItem) (pending : List Pending)
    : Uncovers pending (writeGroup output pending).2 := by
  induction pending generalizing output with
  | nil => exact .nothing rfl
  | cons top rest ih =>
      cases top with
      | group span => exact .group rfl
      | call path span commas => exact .call rfl
      | negate span =>
          rw [writeGroup, writeWhile_cons rfl rfl]
          exact (ih _).of_same rfl
      | operator op span =>
          rw [writeGroup, writeWhile_cons rfl rfl]
          exact (ih _).of_same rfl

-----------------------------------------------------------------------------------------
-- What one token does to the openings
-----------------------------------------------------------------------------------------

theorem exists_ok_of_bind {ε α β : Type} {first : Except ε α} {next : α → Except ε β} {found : β}
    (ran : first >>= next = .ok found)
    : ∃ value, first = .ok value ∧ next value = .ok found := by
  cases first with
  | error other => cases ran
  | ok value => exact ⟨value, rfl, ran⟩

section

variable {state next reached : State} {token : Spanned Token} {tokens : List (Spanned Token)}

/-- What an accepted token does to what is open, and where it leaves an operand to be the first of
its group.
-/
structure Advances (state : State) (token : Spanned Token) (next : State) : Prop where
  openings : openingsOf next.pending = openingsAfter (openingsOf state.pending) token
  opened : next.expecting = .firstOperand → ∃ span rest, next.pending = .group span :: rest

theorem advances_of_step (stepped : state.step token = .ok next) : Advances state token next := by
  obtain ⟨content, span⟩ := token
  cases content with
  | number value | name path =>
      simp only [State.step, State.operand] at stepped
      split at stepped <;> cases stepped
      exact ⟨rfl, by simp⟩
  | operator op =>
      simp only [State.step, State.operator] at stepped
      split at stepped
      · cases stepped
        exact ⟨openingsOf_writeWhile _ _ _, by simp⟩
      · split at stepped <;> cases stepped <;> exact ⟨rfl, by simp⟩
  | openParen =>
      simp only [State.step, State.opening] at stepped
      split at stepped <;> cases stepped
      exact ⟨rfl, fun _ => ⟨span, state.pending, rfl⟩⟩
  | closeParen =>
      simp only [State.step, State.closing] at stepped
      split at stepped
      · cases stepped
      · have uncovered := uncovers_writeGroup state.output state.pending
        split at stepped
        · rename_i same
          rw [same] at uncovered
          cases uncovered with
          | group innermost =>
              split at stepped <;> cases stepped
              exact ⟨by rw [openingsAfter, innermost]; rfl, by simp⟩
        · rename_i same
          rw [same] at uncovered
          cases uncovered with
          | call innermost =>
              cases stepped
              exact ⟨by rw [openingsAfter, innermost]; rfl, by simp⟩
        · cases stepped
  | comma =>
      simp only [State.step, State.comma] at stepped
      split at stepped
      · have uncovered := uncovers_writeGroup state.output state.pending
        split at stepped
        · rename_i same
          rw [same] at uncovered
          cases uncovered with
          | call innermost =>
              cases stepped
              exact ⟨innermost.symm, by simp⟩
        · cases stepped
      · cases stepped

/-- A call puts itself on top of what waits. -/
theorem pending_of_opening {pending : Pending} (read : state.opening token pending = .ok next)
    : next.pending = pending :: state.pending ∧ next.expecting = .firstOperand := by
  unfold State.opening at read
  split at read <;> cases read
  exact ⟨rfl, rfl⟩

/-- The openings that wait are those that the tokens leave unclosed, by induction along the run. -/
theorem openingsOf_run (ran : state.run tokens = .ok reached)
    : openingsFrom (openingsOf state.pending) tokens = openingsOf reached.pending := by
  fun_induction State.run state tokens with
  | case1 state =>
      cases ran
      rfl
  | case2 state path span opened rest ih =>
      obtain ⟨next, read, later⟩ := exists_ok_of_bind ran
      rw [openingsFrom, ← ih next later, (pending_of_opening read).1, openingsOf_call]
  | case3 state token rest single ih =>
      obtain ⟨next, stepped, later⟩ := exists_ok_of_bind ran
      rw [openingsFrom, ← (advances_of_step stepped).openings, ih next later]
      exact single

-----------------------------------------------------------------------------------------
-- Closing all that is open
-----------------------------------------------------------------------------------------

/-- Behind an operand, the formula can end where nothing is open. -/
theorem exists_finish (isOperator : state.expecting = .operator)
    (closed : openingsOf state.pending = []) (stop : Nat)
    : ∃ items, state.finish stop = .ok items := by
  have uncovered := uncovers_writeGroup state.output state.pending
  rcases wrote : writeGroup state.output state.pending with ⟨written, shown⟩
  rw [wrote] at uncovered
  cases uncovered with
  | nothing _ => exact ⟨written.reverse, by simp [State.finish, isOperator, wrote]⟩
  | group innermost | call innermost => cases closed.symm.trans innermost

/-- Behind an operand, a closing parenthesis closes the innermost opening. -/
theorem exists_closing {opening : Opening} {outer : List Opening}
    (isOperator : state.expecting = .operator)
    (opened : openingsOf state.pending = opening :: outer) (span : Span)
    : ∃ next,
        state.step ⟨.closeParen, span⟩ = .ok next
        ∧ next.expecting = .operator
        ∧ openingsOf next.pending = outer := by
  have uncovered := uncovers_writeGroup state.output state.pending
  rcases wrote : writeGroup state.output state.pending with ⟨written, shown⟩
  rw [wrote] at uncovered
  cases uncovered with
  | nothing closed => cases closed.symm.trans opened
  | group innermost | call innermost =>
      refine ⟨_, by simp [State.step, State.closing, isOperator, wrote]; rfl, rfl, ?_⟩
      exact (List.cons.inj (innermost.symm.trans opened)).2

/-- Behind an operand, closing parentheses can end the formula, by induction over what is open. -/
theorem exists_closings (isOperator : state.expecting = .operator) (stop : Nat)
    : ∃ closings final items,
        (∀ closing ∈ closings, closing.content = .closeParen)
        ∧ state.run closings = .ok final
        ∧ final.finish stop = .ok items := by
  induction opened : openingsOf state.pending generalizing state with
  | nil =>
      obtain ⟨items, finished⟩ := exists_finish isOperator opened stop
      exact ⟨[], state, items, nofun, rfl, finished⟩
  | cons opening outer ih =>
      obtain ⟨next, stepped, isOperand, left⟩ := exists_closing isOperator opened ⟨0, 0⟩
      obtain ⟨closings, final, items, all, ran, finished⟩ := ih isOperand left
      refine ⟨⟨.closeParen, ⟨0, 0⟩⟩ :: closings, final, items, ?_, ?_, finished⟩
      · simpa using all
      · rw [State.run_step (by simp), stepped]
        exact ran

/-- What a run passes over is the beginning of an expression. -/
theorem viable_of_run (ran : State.initial.run tokens = .ok reached) : Viable tokens := by
  suffices completed : ∃ more final items,
      (∀ next ∈ more.head?, next.content ≠ .openParen)
      ∧ reached.run more = .ok final
      ∧ final.finish 0 = .ok items by
    obtain ⟨more, final, items, apart, later, finished⟩ := completed
    have all : State.initial.run (tokens ++ more) = .ok final := by
      rw [run_append (.of_ne_openParen tokens apart), ran]
      exact later
    have accepted : postfixOrder (tokens ++ more) 0 = .ok items := by
      rw [postfixOrder, all]
      exact finished
    obtain ⟨formula, reads, -⟩ := reads_of_postfixOrder accepted
    exact ⟨more, formula, reads⟩
  by_cases isOperator : reached.expecting = .operator
  · obtain ⟨closings, final, items, all, later, finished⟩ := exists_closings isOperator 0
    refine ⟨closings, final, items, ?_, later, finished⟩
    intro next first
    rw [all next (List.mem_of_mem_head? first)]
    exact fun other => Token.noConfusion other
  · -- Where an operand is missing, a number comes first.
    let filled : State :=
      ⟨⟨.number 0, ⟨0, 0⟩⟩ :: reached.output, reached.pending, .operator⟩
    have complete : filled.expecting = .operator := rfl
    obtain ⟨closings, final, items, -, later, finished⟩ := exists_closings complete 0
    refine ⟨⟨.number 0, ⟨0, 0⟩⟩ :: closings, final, items, ?_, ?_, finished⟩
    · simp
    · have stepped : reached.step ⟨.number 0, ⟨0, 0⟩⟩ = .ok filled := if_neg isOperator
      rw [State.run_step (by simp), stepped]
      exact later

end

end FormulaCompiler.ShuntingYard
