import FormulaCompiler.Proofs.ShuntingYard.PostfixOrder
import FormulaCompiler.Proofs.Viability

/-! Runs in parts. A run over two lists of tokens goes over the first and then over the second,
unless that would part a name from the parenthesis that makes it a call. So a run that fails gets up
to one token, and the state it has got to tells what can be read instead.
-/

namespace FormulaCompiler.ShuntingYard

open Grammar

-----------------------------------------------------------------------------------------
-- Runs over two lists of tokens
-----------------------------------------------------------------------------------------

/-- No call is parted between two lists of tokens. -/
def Joint (before rest : List (Spanned Token)) : Prop :=
  ∀ path span opened behind,
    before.getLast? = some ⟨.name path, span⟩ → rest ≠ ⟨.openParen, opened⟩ :: behind

section

variable {token next : Spanned Token} {before rest more : List (Spanned Token)}

theorem Joint.nil (rest : List (Spanned Token)) : Joint [] rest :=
  fun _ _ _ _ last => nomatch last

theorem Joint.tail (joint : Joint (token :: before) rest) : Joint before rest := by
  intro path span opened behind last
  refine joint path span opened behind ?_
  rw [List.getLast?_cons, last]
  rfl

theorem Joint.cons (joint : Joint before rest)
    (single
      : before = []
        → ∀ path opened behind, token.content = .name path → rest ≠ ⟨.openParen, opened⟩ :: behind)
    : Joint (token :: before) rest := by
  intro path span opened behind last
  cases before with
  | nil =>
      obtain rfl : token = ⟨.name path, span⟩ := Option.some.inj last
      exact single rfl path opened behind rfl
  | cons second more =>
      rw [List.getLast?_cons_cons] at last
      exact joint path span opened behind last

/-- Only the first token behind a joint matters. -/
theorem Joint.congr (joint : Joint before (token :: rest)) (more : List (Spanned Token))
    : Joint before (token :: more) := by
  intro path span opened behind last same
  obtain ⟨rfl, -⟩ := List.cons.inj same
  exact joint path span opened rest last rfl

theorem Joint.of_ne_openParen (before : List (Spanned Token))
    (other : ∀ next ∈ rest.head?, next.content ≠ .openParen)
    : Joint before rest := by
  rintro path span opened behind - rfl
  exact other _ rfl rfl

theorem run_append {state : State} (joint : Joint before rest)
    : state.run (before ++ rest) = (state.run before).bind (·.run rest) := by
  fun_induction State.run state before with
  | case1 state => rfl
  | case2 state path span opened before ih =>
      rw [List.cons_append, List.cons_append, State.run_call]
      cases state.opening ⟨.name path, span⟩ (.call path (span.through opened) 0) with
      | error report => rfl
      | ok next => exact ih next joint.tail.tail
  | case3 state token before single ih =>
      have apart : ∀ path opened behind,
          token.content = .name path → before ++ rest ≠ ⟨.openParen, opened⟩ :: behind := by
        intro path opened behind isName called
        have named : token = ⟨.name path, token.span⟩ := by rw [← isName]
        cases before with
        | nil => exact joint path token.span opened behind (congrArg some named) called
        | cons second more =>
            obtain ⟨rfl, -⟩ := List.cons.inj called
            exact single path token.span opened more named rfl
      rw [List.cons_append, State.run_step apart]
      cases state.step token with
      | error report => rfl
      | ok next => exact ih next joint.tail

end

-----------------------------------------------------------------------------------------
-- Where a run fails
-----------------------------------------------------------------------------------------

section

variable {state : State} {report : Diagnostic}

/-- A name that cannot be called cannot stand by itself either. -/
theorem step_of_opening {path : String} {span : Span} {pending : Pending}
    (refused : state.opening ⟨.name path, span⟩ pending = .error report)
    : state.step ⟨.name path, span⟩ = .error report := by
  unfold State.opening at refused
  split at refused
  · rename_i isOperator
    cases refused
    exact if_pos isOperator
  · cases refused

theorem opening_of_step {path : String} {span : Span}
    (refused : state.step ⟨.name path, span⟩ = .error report) (pending : Pending)
    : state.opening ⟨.name path, span⟩ pending = .error report := by
  unfold State.step State.operand at refused
  dsimp only at refused
  split at refused
  · rename_i isOperator
    cases refused
    exact if_pos isOperator
  · cases refused

/-- A token that is refused is refused whatever stands behind it. -/
theorem run_of_refused {token : Spanned Token} (refused : state.step token = .error report)
    (behind : List (Spanned Token))
    : state.run (token :: behind) = .error report := by
  by_cases called
    : ∃ path opened rest, token.content = .name path ∧ behind = ⟨.openParen, opened⟩ :: rest
  · obtain ⟨content, span⟩ := token
    obtain ⟨path, opened, rest, rfl, rfl⟩ := called
    rw [State.run_call, opening_of_step refused]
    rfl
  · have apart (path : String) (opened : Span) (rest : List (Spanned Token))
        (isName : token.content = .name path)
        : behind ≠ ⟨.openParen, opened⟩ :: rest :=
      fun same => called ⟨path, opened, rest, isName, same⟩
    rw [State.run_step apart, refused]
    rfl

/-- A run that fails gets up to one token, which is refused. By induction along the run. -/
theorem exists_refused_token {tokens : List (Spanned Token)}
    (refused : state.run tokens = .error report)
    : ∃ before token behind reached,
        tokens = before ++ token :: behind
        ∧ Joint before (token :: behind)
        ∧ state.run before = .ok reached
        ∧ reached.step token = .error report := by
  fun_induction State.run state tokens with
  | case1 state => cases refused
  | case2 state path span opened rest ih =>
      cases opens : state.opening ⟨.name path, span⟩ (.call path (span.through opened) 0) with
      | error other =>
          rw [opens] at refused
          cases refused
          exact ⟨[], _, _, state, rfl, .nil _, rfl, step_of_opening opens⟩
      | ok next =>
          rw [opens] at refused
          obtain ⟨before, token, behind, reached, rfl, joint, ran, blamed⟩ := ih next refused
          refine ⟨_ :: _ :: before, token, behind, reached, rfl, ?_, ?_, blamed⟩
          · refine (joint.cons fun _ _ _ _ isName => Token.noConfusion isName).cons ?_
            exact fun none => absurd none (List.cons_ne_nil _ _)
          · rw [State.run_call, opens]
            exact ran
  | case3 state token rest single ih =>
      have apart : ∀ path opened behind,
          token.content = .name path → rest ≠ ⟨.openParen, opened⟩ :: behind := by
        intro path opened behind isName called
        exact single path token.span opened behind (by rw [← isName]) called
      cases steps : state.step token with
      | error other =>
          rw [steps] at refused
          cases refused
          exact ⟨[], _, _, state, rfl, .nil _, rfl, steps⟩
      | ok next =>
          rw [steps] at refused
          obtain ⟨before, blamed, behind, reached, rfl, joint, ran, blame⟩ := ih next refused
          have alone : ∀ path opened more,
              token.content = .name path → before ≠ ⟨.openParen, opened⟩ :: more := by
            rintro path opened more isName rfl
            exact apart path opened (more ++ blamed :: behind) isName rfl
          refine ⟨token :: before, blamed, behind, reached, rfl, ?_, ?_, blame⟩
          · refine joint.cons ?_
            rintro rfl
            exact apart
          · rw [State.run_step alone, steps]
            exact ran

end

end FormulaCompiler.ShuntingYard
