import FormulaCompiler.Proofs.Grammar
import FormulaCompiler.Proofs.ShuntingYard.Steps

/-! Whatever the stack of pending operators accepts, the grammar derives. The invariant says of each
state which derivations have been begun and which one is complete up to the next token.
-/

namespace FormulaCompiler.ShuntingYard

open Grammar

section

variable {tokens rest : List (Spanned Token)}

/-- (Awaits tokens category written pending input) says that (tokens) can go on with something of a
category at (input). Everything before it was read: its items are (written), and (pending) holds
an entry for each construct that the next operand belongs to.
-/
inductive Awaits (tokens : List (Spanned Token))
    : Category → List PostfixItem → List Pending → List (Spanned Token) → Prop
  | start : Awaits tokens .expr [] [] tokens
  | group {written pending opened behind}
    (before : Awaits tokens .unary written pending (⟨.openParen, opened⟩ :: behind))
    : Awaits tokens .expr written (.group opened :: pending) behind
  | firstArgument {written pending path span opened behind}
    (before
      : Awaits tokens .unary written pending
          (⟨.name path, span⟩ :: ⟨.openParen, opened⟩ :: behind))
    : Awaits tokens .expr written (.call path (span.through opened) 0 :: pending) behind
  | nextArgument {written pending input path args span comma behind}
    (before : Awaits tokens .unary written pending input)
    (head : Reads .callHead input (.call path args span) (⟨.comma, comma⟩ :: behind))
    : Awaits tokens .expr (written ++ Formula.postorderAll args)
        (.call path span args.length :: pending) behind
  | ofExpr {written pending input} (outer : Awaits tokens .expr written pending input)
    : Awaits tokens .term written pending input
  | sum {op written pending input left span behind} (isSum : op = .add ∨ op = .subtract)
    (before : Awaits tokens .expr written pending input)
    (first : Reads .expr input left (⟨.operator op, span⟩ :: behind))
    : Awaits tokens .term (written ++ left.postorder) (.operator op span :: pending) behind
  | ofTerm {written pending input} (outer : Awaits tokens .term written pending input)
    : Awaits tokens .unary written pending input
  | product {op written pending input left span behind}
    (isProduct : op = .multiply ∨ op = .divide ∨ op = .remainder)
    (before : Awaits tokens .term written pending input)
    (first : Reads .term input left (⟨.operator op, span⟩ :: behind))
    : Awaits tokens .unary (written ++ left.postorder) (.operator op span :: pending) behind
  | power {written pending input base span behind}
    (before : Awaits tokens .unary written pending input)
    (left : Reads .atom input base (⟨.operator .power, span⟩ :: behind))
    : Awaits tokens .unary (written ++ base.postorder) (.operator .power span :: pending)
        behind
  | plus {written pending span behind}
    (before : Awaits tokens .unary written pending (⟨.operator .add, span⟩ :: behind))
    : Awaits tokens .unary written pending behind
  | minus {written pending span behind}
    (before : Awaits tokens .unary written pending (⟨.operator .subtract, span⟩ :: behind))
    : Awaits tokens .unary written (.negate span :: pending) behind

/-- Something of a category is complete before (rest), and it is where one was awaited. -/
def Ends (tokens : List (Spanned Token)) (category : Category) (output : List PostfixItem)
    (pending : List Pending) (rest : List (Spanned Token))
    : Prop :=
  ∃ written input formula,
    Awaits tokens category written pending input
    ∧ Reads category input formula rest
    ∧ output.reverse = written ++ formula.postorder

-----------------------------------------------------------------------------------------
-- Writing pending operators completes what they belong to
-----------------------------------------------------------------------------------------

/-- Where an expression is awaited, an opening is pending or nothing. -/
theorem Awaits.stays {written : List PostfixItem} {pending : List Pending}
    {input : List (Spanned Token)} (awaits : Awaits tokens .expr written pending input)
    (leaves : Pending → Bool)
    : Stays leaves pending := by
  cases awaits with
  | start => exact .nil leaves
  | group _ | firstArgument _ | nextArgument _ _ =>
      intro top same
      cases same
      exact Or.inl rfl

/-- Where a term is awaited, nothing pending leaves for the operator of a product. -/
theorem Awaits.stays_product {op : Operator} {written : List PostfixItem}
    {pending : List Pending} {input : List (Spanned Token)}
    (isProduct : op = .multiply ∨ op = .divide ∨ op = .remainder)
    (awaits : Awaits tokens .term written pending input)
    : Stays (·.leavesFor op) pending := by
  cases awaits with
  | ofExpr outer => exact outer.stays _
  | sum isSum _ _ =>
      intro top same
      cases same
      refine Or.inr (leavesFor_of_lt ?_)
      intro held known
      cases known
      rw [strength_of_isSum isSum, strength_of_isProduct isProduct]
      decide

/-- Operators that are not weaker than a product complete a term around an operand. Witness:
induction over what awaits the operand; a sign or an operator on the way is written.
-/
theorem Awaits.ends_term {leaves : Pending → Bool} {category : Category}
    {written : List PostfixItem} {pending : List Pending} {input : List (Spanned Token)}
    (awaits : Awaits tokens category written pending input) (isUnary : category = .unary)
    (leave : ∀ top held, top.strength? = some held → 2 ≤ held → leaves top = true)
    {formula : Formula} {output : List PostfixItem} (reads : Reads .unary input formula rest)
    (same : output.reverse = written ++ formula.postorder)
    : ∃ later outer,
        writeWhile leaves output pending = writeWhile leaves later outer
        ∧ Ends tokens .term later outer rest := by
  induction awaits generalizing formula output with
  | start | group _ _ | firstArgument _ _ | nextArgument _ _ _ | ofExpr _ _ | sum _ _ _ _ =>
      cases isUnary
  | ofTerm outer _ => exact ⟨_, _, rfl, _, _, _, outer, .ofUnary reads, same⟩
  | @product op _ _ _ left span _ isProduct before first _ =>
      have strong := strength_of_isProduct isProduct
      refine ⟨⟨.operator op, span⟩ :: output, _,
        writeWhile_cons rfl (leave _ _ rfl (Nat.le_of_eq strong.symm)) _ _,
        _, _, _, before, .product isProduct first reads, ?_⟩
      simp only [List.reverse_cons, same, Formula.postorder, List.append_assoc]
  | @power earlier _ _ base span _ before left ih =>
      have next : (⟨.operator .power, span⟩ :: output).reverse
          = earlier ++ (Formula.operator .power base formula span).postorder := by
        simp only [List.reverse_cons, same, Formula.postorder, List.append_assoc]
      obtain ⟨later, outer, wrote, ends⟩ := ih rfl (.ofPower (.power left reads)) next
      exact ⟨later, outer, (writeWhile_cons rfl (leave _ _ rfl (by decide)) _ _).trans wrote, ends⟩
  | plus before ih => exact ih rfl (.plus reads) same
  | @minus earlier _ span _ before ih =>
      have next : (⟨.negate, span⟩ :: output).reverse
          = earlier ++ (Formula.negate formula span).postorder := by
        simp only [List.reverse_cons, same, Formula.postorder, List.append_assoc]
      obtain ⟨later, outer, wrote, ends⟩ := ih rfl (.minus reads) next
      exact ⟨later, outer, (writeWhile_cons rfl (leave _ _ rfl (by decide)) _ _).trans wrote, ends⟩

/-- Operators of any strength complete an expression around a term. -/
theorem Ends.expr {leaves : Pending → Bool} {output : List PostfixItem}
    {pending : List Pending} (ends : Ends tokens .term output pending rest)
    (leave : ∀ top held, top.strength? = some held → leaves top = true)
    : ∃ later outer,
        writeWhile leaves output pending = (later, outer)
        ∧ Ends tokens .expr later outer rest := by
  obtain ⟨written, input, formula, awaits, reads, same⟩ := ends
  cases awaits with
  | ofExpr outer =>
      exact ⟨output, pending, writeWhile_of_stays (outer.stays leaves) output,
        written, input, formula, outer, .ofTerm reads, same⟩
  | @sum op _ below _ left span _ isSum before first =>
      refine ⟨⟨.operator op, span⟩ :: output, below, ?_,
        _, _, _, before, .sum isSum first reads, ?_⟩
      · rw [writeWhile_cons rfl (leave _ _ rfl)]
        exact writeWhile_of_stays (before.stays leaves) _
      · simp only [List.reverse_cons, same, Formula.postorder, List.append_assoc]

/-- An operand that nothing is applied to yet is complete as an atom. -/
theorem Ends.term_of_atom {leaves : Pending → Bool} {written : List PostfixItem}
    {pending : List Pending} {input : List (Spanned Token)} {formula : Formula}
    {output : List PostfixItem} (awaits : Awaits tokens .unary written pending input)
    (atom : Reads .atom input formula rest)
    (same : output.reverse = written ++ formula.postorder)
    (leave : ∀ top held, top.strength? = some held → 2 ≤ held → leaves top = true)
    : ∃ later outer,
        writeWhile leaves output pending = writeWhile leaves later outer
        ∧ Ends tokens .term later outer rest :=
  awaits.ends_term rfl leave (.ofPower (.ofAtom atom)) same

/-- Writing a whole group completes the expression inside it. -/
theorem Ends.of_writeGroup {written : List PostfixItem}
    {pending : List Pending} {input : List (Spanned Token)} {formula : Formula}
    {output : List PostfixItem} (awaits : Awaits tokens .unary written pending input)
    (atom : Reads .atom input formula rest)
    (same : output.reverse = written ++ formula.postorder)
    : ∃ later outer,
        writeGroup output pending = (later, outer) ∧ Ends tokens .expr later outer rest := by
  obtain ⟨middle, between, wrote, ends⟩ :=
    Ends.term_of_atom awaits atom same (fun _ _ _ _ => rfl)
  obtain ⟨later, outer, wroteAll, complete⟩ := ends.expr (fun _ _ _ => rfl)
  exact ⟨later, outer, wrote.trans wroteAll, complete⟩

-----------------------------------------------------------------------------------------
-- The invariant of a run
-----------------------------------------------------------------------------------------

/-- What has been read when (state) is reached and (rest) is left: an operand is awaited, maybe
right behind an opening, or one is complete as an atom.
-/
inductive Follows (tokens : List (Spanned Token)) : State → List (Spanned Token) → Prop
  | operand {output pending input} (awaits : Awaits tokens .unary output.reverse pending input)
    : Follows tokens ⟨output, pending, .operand⟩ input
  | groupOpened {output pending opened behind}
    (before : Awaits tokens .unary output.reverse pending (⟨.openParen, opened⟩ :: behind))
    : Follows tokens ⟨output, .group opened :: pending, .firstOperand⟩ behind
  | callOpened {output pending path span opened behind}
    (before
      : Awaits tokens .unary output.reverse pending
          (⟨.name path, span⟩ :: ⟨.openParen, opened⟩ :: behind))
    : Follows tokens
        ⟨output, .call path (span.through opened) 0 :: pending, .firstOperand⟩ behind
  | operator {written output pending input formula behind}
    (awaits : Awaits tokens .unary written pending input)
    (atom : Reads .atom input formula behind)
    (same : output.reverse = written ++ formula.postorder)
    : Follows tokens ⟨output, pending, .operator⟩ behind

theorem Follows.start (tokens : List (Spanned Token)) : Follows tokens .initial tokens :=
  .operand (.ofTerm (.ofExpr .start))

/-- An operand can be read where no operator is expected. -/
theorem Follows.awaits {state : State} (follows : Follows tokens state rest)
    (isOperand : state.expecting ≠ .operator)
    : Awaits tokens .unary state.output.reverse state.pending rest := by
  cases follows with
  | operand awaits => exact awaits
  | groupOpened before => exact .ofTerm (.ofExpr (.group before))
  | callOpened before => exact .ofTerm (.ofExpr (.firstArgument before))
  | operator _ _ _ => exact absurd rfl isOperand

/-- Reading an operand keeps the invariant. -/
theorem Follows.readOperand {state next : State} {token : Spanned Token} {node : PostfixNode}
    {formula : Formula} {span : Span}
    (follows : Follows tokens state (token :: rest))
    (atom : Reads .atom (token :: rest) formula rest)
    (single : formula.postorder = [⟨node, span⟩])
    (read : state.operand token.content node span = .ok next)
    : Follows tokens next rest := by
  unfold State.operand at read
  split at read
  · cases read
  · rename_i isOperand
    cases read
    exact .operator (follows.awaits isOperand) atom (by simp [single])

/-- An operator behind an operand takes as its left operand what its strength makes of it. -/
theorem Follows.readInfix {op : Operator} {span : Span} {written output : List PostfixItem}
    {pending : List Pending} {input : List (Spanned Token)} {formula : Formula}
    (awaits : Awaits tokens .unary written pending input)
    (atom : Reads .atom input formula (⟨.operator op, span⟩ :: rest))
    (same : output.reverse = written ++ formula.postorder)
    : Follows tokens
        ⟨
          (writeWhile (·.leavesFor op) output pending).1,
          .operator op span :: (writeWhile (·.leavesFor op) output pending).2,
          .operand
        ⟩ rest := by
  rcases isSum_or_isProduct_or_power op with isSum | isProduct | rfl
  · have level := strength_of_isSum isSum
    have weak := ne_power_of_isSum isSum
    have leave : ∀ (top : Pending) held, top.strength? = some held → top.leavesFor op = true := by
      intro top held known
      have bounds := strength?_bounds known
      exact leavesFor_of_le known (by omega) weak
    obtain ⟨middle, between, wrote, term⟩ :=
      Ends.term_of_atom awaits atom same (fun top held known _ => leave top held known)
    obtain ⟨later, outer, wroteAll, left, start, summand, before, first, sameFirst⟩ :=
      term.expr leave
    rw [wrote, wroteAll]
    exact .operand (.ofTerm (sameFirst ▸ .sum isSum before first))
  · have level := strength_of_isProduct isProduct
    have weak := ne_power_of_isProduct isProduct
    obtain ⟨later, outer, wrote, left, start, factor, before, first, sameFirst⟩ :=
      Ends.term_of_atom awaits atom same
        (fun top held known bounded => leavesFor_of_le known (level ▸ bounded) weak)
    rw [wrote, writeWhile_of_stays (before.stays_product isProduct)]
    exact .operand (sameFirst ▸ .product isProduct before first)
  · have stays : Stays (·.leavesFor .power) pending :=
      fun top _ => Or.inr (leavesFor_power top)
    rw [writeWhile_of_stays stays]
    exact .operand (same ▸ .power awaits atom)

/-- Reading an operator keeps the invariant. A sign before an operand belongs to it. -/
theorem Follows.readOperator {state next : State} {op : Operator} {span : Span}
    (follows : Follows tokens state (⟨.operator op, span⟩ :: rest))
    (read : state.operator op span = .ok next)
    : Follows tokens next rest := by
  unfold State.operator at read
  split at read
  · rename_i isOperator
    cases read
    cases follows with
    | operand _ | groupOpened _ | callOpened _ => cases isOperator
    | operator awaits atom same => exact .readInfix awaits atom same
  · rename_i isOperand
    have awaits := follows.awaits isOperand
    split at read
    · cases read
      exact .operand (.plus awaits)
    · cases read
      exact .operand (.minus awaits)
    · cases read

/-- Reading a comma keeps the invariant, since only a call has arguments. -/
theorem Follows.readComma {state next : State} {span : Span}
    (follows : Follows tokens state (⟨.comma, span⟩ :: rest))
    (read : state.comma span = .ok next)
    : Follows tokens next rest := by
  unfold State.comma at read
  split at read
  · rename_i isOperator
    cases follows with
    | operand _ | groupOpened _ | callOpened _ => cases isOperator
    | operator awaits atom same =>
        obtain ⟨later, outer, wrote, written, input, arg, before, reads, sameArg⟩ :=
          Ends.of_writeGroup awaits atom same
        simp only [wrote] at read
        cases before with
        | start | group _ => cases read
        | firstArgument call =>
            cases read
            refine .operand (.ofTerm (.ofExpr ?_))
            simpa [sameArg] using Awaits.nextArgument call (.firstArgument reads)
        | @nextArgument _ _ _ _ args _ _ _ call head =>
            cases read
            refine .operand (.ofTerm (.ofExpr ?_))
            simpa [sameArg] using Awaits.nextArgument call (.nextArgument head reads)
  · cases read

/-- Reading a closing parenthesis keeps the invariant: it completes the group or the call that it
ends as an atom.
-/
theorem Follows.readClosing {state next : State} {span : Span}
    (follows : Follows tokens state (⟨.closeParen, span⟩ :: rest))
    (read : state.closing span = .ok next)
    : Follows tokens next rest := by
  unfold State.closing at read
  cases follows with
  | operand _ => cases read
  | groupOpened before =>
      simp [writeGroup, writeWhile, Pending.item?] at read
  | @callOpened output pending path start opened _ before =>
      simp [writeGroup, writeWhile, Pending.item?] at read
      subst read
      exact .operator before .emptyCall
        (by simp [Formula.postorder, Formula.postorderAll, Span.through])
  | operator awaits atom same =>
      obtain ⟨later, outer, wrote, written, input, arg, before, reads, sameArg⟩ :=
        Ends.of_writeGroup awaits atom same
      simp only [wrote] at read
      cases before with
      | start => cases read
      | group before =>
          cases read
          exact .operator before (.group reads) sameArg
      | firstArgument call =>
          cases read
          exact .operator call (.call (.firstArgument reads))
            (by simp [Formula.postorder, sameArg])
      | nextArgument call head =>
          cases read
          exact .operator call (.call (.nextArgument head reads))
            (by simp [Formula.postorder, sameArg])

/-- Every step keeps the invariant. A name that is called is not read by itself. -/
theorem Follows.step {state next : State} {token : Spanned Token}
    (follows : Follows tokens state (token :: rest))
    (single
      : ∀ path opened behind,
          token.content = .name path → rest ≠ ⟨.openParen, opened⟩ :: behind)
    (read : state.step token = .ok next)
    : Follows tokens next rest := by
  obtain ⟨content, span⟩ := token
  cases content with
  | number value => exact follows.readOperand .number rfl read
  | name path => exact follows.readOperand (.name (single path · · rfl)) rfl read
  | operator op => exact follows.readOperator read
  | openParen =>
      simp only [State.step, State.opening] at read
      split at read
      · cases read
      · rename_i isOperand
        cases read
        exact .groupOpened (follows.awaits isOperand)
  | closeParen => exact follows.readClosing read
  | comma => exact follows.readComma read

/-- A name and the parenthesis behind it keep the invariant. -/
theorem Follows.openCall {state next : State} {path : String} {span opened : Span}
    (follows : Follows tokens state (⟨.name path, span⟩ :: ⟨.openParen, opened⟩ :: rest))
    (read
      : state.opening ⟨.name path, span⟩ (.call path (span.through opened) 0) = .ok next)
    : Follows tokens next rest := by
  unfold State.opening at read
  split at read
  · cases read
  · rename_i isOperand
    cases read
    exact .callOpened (follows.awaits isOperand)

/-- A whole run keeps the invariant, by induction along the tokens. -/
theorem Follows.run {state final : State} {input : List (Spanned Token)}
    (follows : Follows tokens state input) (read : state.run input = .ok final)
    : Follows tokens final [] := by
  fun_induction State.run state input with
  | case1 state =>
      cases read
      exact follows
  | case2 state path span opened rest ih =>
      cases opens : state.opening ⟨.name path, span⟩ (.call path (span.through opened) 0) with
      | error diagnostic =>
          rw [opens] at read
          cases read
      | ok next =>
          rw [opens] at read
          exact ih next (follows.openCall opens) read
  | case3 state token rest single ih =>
      cases steps : state.step token with
      | error diagnostic =>
          rw [steps] at read
          cases read
      | ok next =>
          rw [steps] at read
          have notCall : ∀ path opened behind,
              token.content = .name path → rest ≠ ⟨.openParen, opened⟩ :: behind := by
            intro path opened behind isName called
            exact single path token.span opened behind (by rw [← isName]) called
          exact ih next (follows.step notCall steps) read

/-- A state that ends the formula has read an expression that is all of the tokens. -/
theorem Follows.finish {state : State} {stop : Nat} {items : List PostfixItem}
    (follows : Follows tokens state []) (finished : state.finish stop = .ok items)
    : ∃ formula, Reads .expr tokens formula [] ∧ formula.postorder = items := by
  unfold State.finish at finished
  cases follows with
  | operand _ | groupOpened _ | callOpened _ => cases finished
  | operator awaits atom same =>
      obtain ⟨later, outer, wrote, written, input, formula, before, reads, sameFormula⟩ :=
        Ends.of_writeGroup awaits atom same
      simp only [if_true, wrote] at finished
      cases before with
      | start =>
          cases finished
          exact ⟨formula, reads, sameFormula.symm⟩
      | group _ | firstArgument _ | nextArgument _ _ => cases finished

end

end FormulaCompiler.ShuntingYard
