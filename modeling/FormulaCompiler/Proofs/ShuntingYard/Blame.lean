import FormulaCompiler.Proofs.ShuntingYard.Openings

/-! Which token a refusal blames. It is the first one that nothing behind it can make right, and the
report tells what is wrong with it: an operand is missing there, it stands where an operator has to
be, or it closes what is not open.
-/

namespace FormulaCompiler.ShuntingYard

open Grammar

section

variable {tokens before : List (Spanned Token)} {token : Spanned Token} {state reached : State}
variable {report : Diagnostic}

/-- What is reported of a refused token does not depend on what stands behind it. -/
theorem postfixOrder_of_refused (joint : Joint before [token])
    (ran : State.initial.run before = .ok reached) (refused : reached.step token = .error report)
    (behind : List (Spanned Token)) (stop : Nat)
    : postfixOrder (before ++ token :: behind) stop = .error report := by
  rw [postfixOrder, run_append (joint.congr behind), ran]
  change (reached.run (token :: behind)).bind _ = _
  rw [run_of_refused refused]
  rfl

theorem not_viable_of_refused (joint : Joint before [token])
    (ran : State.initial.run before = .ok reached) (refused : reached.step token = .error report)
    : ¬ Viable (before ++ [token]) := by
  rintro ⟨more, formula, reads⟩
  rw [List.append_assoc] at reads
  have accepted := postfixOrder_of_reads reads 0
  rw [List.singleton_append, postfixOrder_of_refused joint ran refused] at accepted
  cases accepted

-----------------------------------------------------------------------------------------
-- Where an operand is needed
-----------------------------------------------------------------------------------------

/-- Something was opened by the last token, and the opening is on top of what waits. -/
inductive JustOpened (tokens : List (Spanned Token)) : List Pending → Prop
  | group {span rest} : JustOpened tokens (.group span :: rest)
  | call {path span commas rest} (opens : OpensCall tokens)
    : JustOpened tokens (.call path span commas :: rest)

theorem JustOpened.openings_ne_nil {pending : List Pending} (opened : JustOpened tokens pending)
    : openingsOf pending ≠ [] := by
  cases opened with
  | group | call _ => exact List.cons_ne_nil _ _

theorem JustOpened.behind {pending : List Pending} (opened : JustOpened tokens pending)
    (before : List (Spanned Token))
    : JustOpened (before ++ tokens) pending := by
  cases opened with
  | group => exact .group
  | call opens =>
      obtain ⟨front, path, span, opened, rfl⟩ := opens
      exact .call ⟨before ++ front, path, span, opened, by rw [List.append_assoc]⟩

/-- The first operand of a group is expected right behind its opening only, by induction along the
run.
-/
theorem justOpened_of_run (ran : state.run tokens = .ok reached)
    (first : reached.expecting = .firstOperand) (some : tokens ≠ [])
    : JustOpened tokens reached.pending := by
  fun_induction State.run state tokens with
  | case1 state => exact absurd rfl some
  | case2 state path span opened rest ih =>
      obtain ⟨next, read, later⟩ := exists_ok_of_bind ran
      by_cases last : rest = []
      · subst last
        cases later
        rw [(pending_of_opening read).1]
        exact .call ⟨[], path, span, opened, rfl⟩
      · exact (ih next later last).behind [_, _]
  | case3 state token rest single ih =>
      obtain ⟨next, stepped, later⟩ := exists_ok_of_bind ran
      by_cases last : rest = []
      · subst last
        cases later
        obtain ⟨span, below, top⟩ := (advances_of_step stepped).opened first
        rw [top]
        exact .group
      · exact (ih next later last).behind [_]

theorem justOpened_of_initial (ran : State.initial.run before = .ok reached)
    (first : reached.expecting = .firstOperand)
    : JustOpened before reached.pending := by
  refine justOpened_of_run ran first ?_
  rintro rfl
  cases ran
  cases first

/-- What can come next where no operator is expected. -/
theorem exists_refusal (isOperand : state.expecting ≠ .operator)
    (opened : state.expecting = .firstOperand → JustOpened before state.pending)
    (noOperand : ¬ beginsOperand token.content)
    (noClosing : ¬ (token.content = .closeParen ∧ OpensCall before))
    : ∃ report, state.step token = .error report := by
  obtain ⟨content, span⟩ := token
  obtain ⟨output, pending, expecting⟩ := state
  cases content with
  | number value | name path | openParen => exact absurd rfl noOperand
  | operator op =>
      cases op with
      | add | subtract => exact absurd rfl noOperand
      | multiply | divide | remainder | power => exact ⟨_, if_neg isOperand⟩
  | comma => exact ⟨_, if_neg isOperand⟩
  | closeParen =>
      cases expecting with
      | operator => exact absurd rfl isOperand
      | operand => exact ⟨_, rfl⟩
      | firstOperand =>
          cases opened rfl with
          | group => exact ⟨_, rfl⟩
          | call opens => exact absurd ⟨rfl, opens⟩ noClosing

/-- An operand is needed exactly where no operator is expected. Witness: where one is expected, a
product can go on.
-/
theorem needsOperand_iff (ran : State.initial.run before = .ok reached)
    : NeedsOperand before ↔ reached.expecting ≠ .operator := by
  constructor
  · intro needs isOperator
    obtain ⟨next, stepped⟩ : ∃ next, reached.step ⟨.operator .multiply, ⟨0, 0⟩⟩ = .ok next :=
      ⟨_, if_pos isOperator⟩
    have goesOn : State.initial.run (before ++ [⟨.operator .multiply, ⟨0, 0⟩⟩]) = .ok next := by
      rw [run_append (.of_ne_openParen before (by simp)), ran]
      exact (State.run_step (by simp) reached).trans (by rw [stepped]; rfl)
    rcases needs _ (viable_of_run goesOn) with begins | ⟨isClosing, -⟩
    · cases begins
    · cases isClosing
  · intro isOperand next viable
    by_cases noOperand : beginsOperand next.content
    · exact .inl noOperand
    by_cases noClosing : next.content = .closeParen ∧ OpensCall before
    · exact .inr noClosing
    obtain ⟨report, refused⟩ :=
      exists_refusal isOperand (justOpened_of_initial ran) noOperand noClosing
    refine absurd viable (not_viable_of_refused (.of_ne_openParen before ?_) ran refused)
    rintro _ ⟨⟩ isOpening
    rw [isOpening] at noOperand
    exact noOperand rfl

-----------------------------------------------------------------------------------------
-- What a refusal says
-----------------------------------------------------------------------------------------

/-- Why a token is refused, and the report that says so. -/
inductive Refusal (state : State) (token : Spanned Token) : Diagnostic → Prop
  | missingOperand {place} (isOperand : state.expecting ≠ .operator)
    : Refusal state token { problem := .missingOperand place, span := token.span }
  | unexpectedOperand (isOperator : state.expecting = .operator)
    (misplaced : Misplaced (openingsOf state.pending) token.content)
    : Refusal state token { problem := .unexpectedOperand token.content, span := token.span }
  | strayComma (isOperator : state.expecting = .operator)
    (misplaced : Misplaced (openingsOf state.pending) token.content)
    : Refusal state token { problem := .strayComma, span := token.span }
  | unmatched (isOperator : state.expecting = .operator) (isClosing : token.content = .closeParen)
    (closed : openingsOf state.pending = [])
    : Refusal state token { problem := .unmatchedClose, span := token.span }

namespace Refusal

variable (refusal : Refusal state token report)

include refusal

theorem place : report.span = token.span := by
  cases refusal <;> rfl

theorem missing_iff : report.problem.code = "CF0003" ↔ state.expecting ≠ .operator := by
  cases refusal with
  | missingOperand isOperand => exact iff_of_true rfl isOperand
  | unexpectedOperand isOperator _ | strayComma isOperator _ | unmatched isOperator _ _ =>
      exact iff_of_false (by simp [Problem.code]) (not_not_intro isOperator)

theorem misplaced_iff (isOperator : state.expecting = .operator)
    : report.problem.code = "CF0005" ↔ Misplaced (openingsOf state.pending) token.content := by
  cases refusal with
  | missingOperand isOperand => exact absurd isOperator isOperand
  | unexpectedOperand _ misplaced | strayComma _ misplaced => exact iff_of_true rfl misplaced
  | unmatched _ isClosing _ =>
      rw [isClosing]
      exact iff_of_false (by simp [Problem.code]) id

theorem of_not_misplaced (isOperator : state.expecting = .operator)
    (placed : ¬ Misplaced (openingsOf state.pending) token.content)
    : report.problem.code = "CF0004"
      ∧ token.content = .closeParen
      ∧ openingsOf state.pending = [] := by
  cases refusal with
  | missingOperand isOperand => exact absurd isOperator isOperand
  | unexpectedOperand _ misplaced | strayComma _ misplaced => exact absurd misplaced placed
  | unmatched _ isClosing closed => exact ⟨rfl, isClosing, closed⟩

end Refusal

/-- A comma is misplaced where no call is on top of the operators. -/
theorem Uncovers.misplaced_comma {pending shown : List Pending} (uncovers : Uncovers pending shown)
    (noCall : ∀ path span commas rest, shown ≠ .call path span commas :: rest)
    : Misplaced (openingsOf pending) .comma := by
  intro innermost top
  cases uncovers with
  | nothing closed =>
      rw [closed] at top
      cases top
  | group same =>
      rw [same] at top
      cases top
      rfl
  | call _ => exact absurd rfl (noCall _ _ _ _)

/-- Nothing is open where no opening is on top of the operators. -/
theorem Uncovers.closed {pending shown : List Pending} (uncovers : Uncovers pending shown)
    (noGroup : ∀ span rest, shown ≠ .group span :: rest)
    (noCall : ∀ path span commas rest, shown ≠ .call path span commas :: rest)
    : openingsOf pending = [] := by
  cases uncovers with
  | nothing closed => exact closed
  | group _ => exact absurd rfl (noGroup _ _)
  | call _ => exact absurd rfl (noCall _ _ _ _)

theorem refusal_of_step (refused : state.step token = .error report)
    (opened : state.expecting = .firstOperand → openingsOf state.pending ≠ [])
    : Refusal state token report := by
  obtain ⟨content, span⟩ := token
  cases content with
  | number value | name path | openParen =>
      simp only [State.step, State.operand, State.opening] at refused
      split at refused
      · rename_i isOperator
        cases refused
        exact .unexpectedOperand isOperator trivial
      · cases refused
  | operator op =>
      simp only [State.step, State.operator] at refused
      split at refused
      · cases refused
      · rename_i isOperand
        split at refused <;> cases refused
        exact .missingOperand isOperand
  | comma =>
      simp only [State.step, State.comma] at refused
      split at refused
      · rename_i isOperator
        have uncovered := uncovers_writeGroup state.output state.pending
        split at refused
        · cases refused
        · rename_i noCall
          cases refused
          refine .strayComma isOperator (uncovered.misplaced_comma ?_)
          intro path span commas rest top
          exact noCall _ path span commas rest (Prod.ext rfl top)
      · rename_i isOperand
        cases refused
        exact .missingOperand isOperand
  | closeParen =>
      have uncovered := uncovers_writeGroup state.output state.pending
      simp only [State.step, State.closing] at refused
      split at refused
      · rename_i isOperand
        cases refused
        exact .missingOperand (by rw [isOperand]; decide)
      · rename_i isOperator
        split at refused
        · split at refused <;> cases refused
          rename_i isFirst
          exact .missingOperand (by rw [isFirst]; decide)
        · cases refused
        · rename_i noGroup noCall
          cases refused
          have closed : openingsOf state.pending = [] := by
            refine uncovered.closed ?_ ?_
            · intro span rest top
              exact noGroup _ span rest (Prod.ext rfl top)
            · intro path span commas rest top
              exact noCall _ path span commas rest (Prod.ext rfl top)
          refine .unmatched ?_ rfl closed
          cases expecting : state.expecting with
          | operand => exact absurd expecting isOperator
          | firstOperand => exact absurd closed (opened expecting)
          | operator => rfl

theorem refusal_of_initial (ran : State.initial.run before = .ok reached)
    (refused : reached.step token = .error report)
    : Refusal reached token report :=
  refusal_of_step refused fun first => (justOpened_of_initial ran first).openings_ne_nil

/-- Why a formula cannot end, and the report that says so. -/
inductive EndRefusal (state : State) (stop : Nat) : Diagnostic → Prop
  | missingOperand (isOperand : state.expecting ≠ .operator)
    : EndRefusal state stop { problem := .missingOperand .atEnd, span := ⟨stop, stop⟩ }
  | unclosed {innermost outer} (isOperator : state.expecting = .operator)
    (opened : openingsOf state.pending = innermost :: outer)
    : EndRefusal state stop { problem := .unclosedOpen, span := innermost.span }

namespace EndRefusal

variable {stop : Nat} (refusal : EndRefusal state stop report)

include refusal

theorem missing_iff : report.problem.code = "CF0003" ↔ state.expecting ≠ .operator := by
  cases refusal with
  | missingOperand isOperand => exact iff_of_true rfl isOperand
  | unclosed isOperator _ =>
      exact iff_of_false (by simp [Problem.code]) (not_not_intro isOperator)

theorem place (isOperand : state.expecting ≠ .operator) : report.span = ⟨stop, stop⟩ := by
  cases refusal with
  | missingOperand _ => rfl
  | unclosed isOperator _ => exact absurd isOperator isOperand

theorem of_isOperator (isOperator : state.expecting = .operator)
    : report.problem.code = "CF0004"
      ∧ ∃ innermost outer,
          openingsOf state.pending = innermost :: outer ∧ report.span = innermost.span := by
  cases refusal with
  | missingOperand isOperand => exact absurd isOperator isOperand
  | unclosed _ opened => exact ⟨rfl, _, _, opened, rfl⟩

end EndRefusal

theorem refusal_of_finish {stop : Nat} (refused : state.finish stop = .error report)
    : EndRefusal state stop report := by
  unfold State.finish at refused
  split at refused
  · rename_i isOperator
    have uncovered := uncovers_writeGroup state.output state.pending
    rcases wrote : writeGroup state.output state.pending with ⟨written, shown⟩
    rw [wrote] at uncovered refused
    cases uncovered with
    | nothing _ => cases refused
    | group same | call same =>
        cases refused
        exact .unclosed isOperator same
  · rename_i isOperand
    cases refused
    exact .missingOperand isOperand

/-- Tokens are refused by one of them or by their end, and all before that is passed over. -/
theorem refused_cases {stop : Nat} (refused : postfixOrder tokens stop = .error report)
    : (∃ before token behind reached,
        tokens = before ++ token :: behind
        ∧ Joint before [token]
        ∧ State.initial.run before = .ok reached
        ∧ reached.step token = .error report)
      ∨ ∃ reached,
          State.initial.run tokens = .ok reached ∧ reached.finish stop = .error report := by
  cases ran : State.initial.run tokens with
  | ok reached =>
      rw [postfixOrder, ran] at refused
      exact .inr ⟨reached, rfl, refused⟩
  | error other =>
      rw [postfixOrder, ran] at refused
      cases refused
      obtain ⟨before, token, behind, reached, split, joint, passed, blamed⟩ :=
        exists_refused_token ran
      exact .inl ⟨before, token, behind, reached, split, joint.congr [], passed, blamed⟩

-----------------------------------------------------------------------------------------
-- The first token that cannot be right
-----------------------------------------------------------------------------------------

/-- A token is refused behind others: they begin an expression, and with the token they begin none,
so nothing behind it matters. The code tells apart three cases, of which the first that applies is
reported.
-/
structure RefusedAt (before : List (Spanned Token)) (token : Spanned Token) (report : Diagnostic)
    : Prop where
  begun : Viable before
  ended : ¬ Viable (before ++ [token])
  settled : ∀ behind stop, postfixOrder (before ++ token :: behind) stop = .error report
  place : report.span = token.span
  missing : report.problem.code = "CF0003" ↔ NeedsOperand before
  misplaced
    : ¬ NeedsOperand before
      → (report.problem.code = "CF0005" ↔ Misplaced (openings before) token.content)
  unmatched
    : ¬ NeedsOperand before
      → ¬ Misplaced (openings before) token.content
      → report.problem.code = "CF0004" ∧ token.content = .closeParen ∧ openings before = []

/-- The end is refused behind tokens that begin an expression and are none. -/
structure RefusedAtEnd (tokens : List (Spanned Token)) (stop : Nat) (report : Diagnostic)
    : Prop where
  begun : Viable tokens
  incomplete : ¬ Derives tokens
  missing : report.problem.code = "CF0003" ↔ NeedsOperand tokens
  place : NeedsOperand tokens → report.span = ⟨stop, stop⟩
  unclosed
    : ¬ NeedsOperand tokens
      → report.problem.code = "CF0004"
        ∧ ∃ innermost outer, openings tokens = innermost :: outer ∧ report.span = innermost.span

theorem refusedAt_of_step (joint : Joint before [token])
    (ran : State.initial.run before = .ok reached) (refused : reached.step token = .error report)
    : RefusedAt before token report := by
  have refusal := refusal_of_initial ran refused
  have needs := needsOperand_iff ran
  have opened : openingsOf reached.pending = openings before := (openingsOf_run ran).symm
  refine {
    begun := viable_of_run ran
    ended := not_viable_of_refused joint ran refused
    settled := postfixOrder_of_refused joint ran refused
    place := refusal.place
    missing := refusal.missing_iff.trans needs.symm
    misplaced := ?_
    unmatched := ?_
  }
  all_goals
    rw [needs, Classical.not_not, ← opened]
    intro isOperator
  · exact refusal.misplaced_iff isOperator
  · exact refusal.of_not_misplaced isOperator

theorem refusedAtEnd_of_finish {stop : Nat} (ran : State.initial.run tokens = .ok reached)
    (refused : reached.finish stop = .error report)
    : RefusedAtEnd tokens stop report := by
  have refusal := refusal_of_finish refused
  have needs := needsOperand_iff ran
  have opened : openingsOf reached.pending = openings tokens := (openingsOf_run ran).symm
  refine {
    begun := viable_of_run ran
    incomplete := ?_
    missing := refusal.missing_iff.trans needs.symm
    place := fun needed => refusal.place (needs.mp needed)
    unclosed := ?_
  }
  · rintro ⟨formula, reads⟩
    have accepted := postfixOrder_of_reads reads stop
    rw [postfixOrder, ran] at accepted
    cases refused.symm.trans accepted
  · rw [needs, Classical.not_not, ← opened]
    exact refusal.of_isOperator

/-- Tokens that are no expression are refused at the first of them that nothing can make right, or
at their end where all of them begin an expression. The code and the span of the report say which
and why.
-/
theorem refusedAt_or_refusedAtEnd (tokens : List (Spanned Token)) (stop : Nat)
    (report : Diagnostic) (refused : postfixOrder tokens stop = .error report)
    : (∃ before token behind,
        tokens = before ++ token :: behind ∧ RefusedAt before token report)
      ∨ RefusedAtEnd tokens stop report := by
  rcases refused_cases refused with
    ⟨before, token, behind, reached, split, joint, ran, blamed⟩ | ⟨reached, ran, ended⟩
  · exact .inl ⟨before, token, behind, split, refusedAt_of_step joint ran blamed⟩
  · exact .inr (refusedAtEnd_of_finish ran ended)

/-- In "f((1, 2)" the comma belongs to no call, since a group is open inside the call. -/
theorem refusedAt_comma_in_group
    : let tokens : List (Spanned Token) := [
        ⟨.name "f", ⟨0, 1⟩⟩, ⟨.openParen, ⟨1, 2⟩⟩, ⟨.openParen, ⟨2, 3⟩⟩, ⟨.number 1, ⟨3, 4⟩⟩,
        ⟨.comma, ⟨4, 5⟩⟩, ⟨.number 2, ⟨6, 7⟩⟩, ⟨.closeParen, ⟨7, 8⟩⟩
      ]
      let report : Diagnostic := { problem := .strayComma, span := ⟨4, 5⟩ }
      postfixOrder tokens 8 = .error report
      ∧ ((∃ before token behind,
            tokens = before ++ token :: behind ∧ RefusedAt before token report)
          ∨ RefusedAtEnd tokens 8 report) :=
  ⟨rfl, refusedAt_or_refusedAtEnd _ 8 _ rfl⟩

end

end FormulaCompiler.ShuntingYard
