import FormulaCompiler.Proofs.Origins

/-! Numbers with signs before them and parentheses around them. In a tree such a number is a literal
under negations, and nothing else is read as one.
-/

namespace FormulaCompiler

/-- The value of the literal that a tree is made of, if it has nothing but negations above it. -/
def Formula.literal? : Formula → Option Float
  | .number value _ => some value
  | .negate arg _ => arg.literal?
  | _ => none

namespace Grammar

/-- (WritesNumber value tokens) says that all of (tokens) is one literal of this value, in any
parentheses and behind any signs.
-/
inductive WritesNumber (value : Float) : List (Spanned Token) → Prop
  | literal {span} : WritesNumber value [⟨.number value, span⟩]
  | sign {op span tokens} (isSign : op = .add ∨ op = .subtract)
    (operand : WritesNumber value tokens)
    : WritesNumber value (⟨.operator op, span⟩ :: tokens)
  | group {opened closed tokens} (inner : WritesNumber value tokens)
    : WritesNumber value (⟨.openParen, opened⟩ :: (tokens ++ [⟨.closeParen, closed⟩]))

variable {category : Category} {input rest : List (Spanned Token)} {formula : Formula}
  {value : Float}

section

variable {content : Token} {span : Span} {behind tail operand : List (Spanned Token)}

/-- The first token of a written number tells how the number goes on. -/
theorem WritesNumber.cases_first (writes : WritesNumber value operand)
    (parts : ⟨content, span⟩ :: behind = operand ++ tail)
    : (content = .number value ∧ behind = tail)
      ∨ (∃ op tokens, content = .operator op ∧ WritesNumber value tokens
          ∧ behind = tokens ++ tail)
      ∨ ∃ closed tokens, content = .openParen ∧ WritesNumber value tokens
          ∧ behind = tokens ++ ⟨.closeParen, closed⟩ :: tail := by
  cases writes with
  | literal =>
      obtain ⟨same, rfl⟩ := List.cons.inj parts
      cases same
      exact .inl ⟨rfl, rfl⟩
  | sign _ operand =>
      obtain ⟨same, rfl⟩ := List.cons.inj parts
      cases same
      exact .inr (.inl ⟨_, _, rfl, operand, rfl⟩)
  | group inner =>
      rw [List.cons_append, List.append_assoc] at parts
      obtain ⟨same, rfl⟩ := List.cons.inj parts
      cases same
      exact .inr (.inr ⟨_, _, rfl, inner, rfl⟩)

theorem WritesNumber.of_name {path : String} (writes : WritesNumber value operand)
    (parts : ⟨.name path, span⟩ :: behind = operand ++ tail)
    : False := by
  rcases writes.cases_first parts with ⟨same, -⟩ | ⟨_, _, same, -⟩ | ⟨_, _, same, -⟩ <;> cases same

theorem WritesNumber.of_number {other : Float} (writes : WritesNumber value operand)
    (parts : ⟨.number other, span⟩ :: behind = operand ++ tail)
    : other = value ∧ behind = tail := by
  rcases writes.cases_first parts with ⟨same, left⟩ | ⟨_, _, same, -⟩ | ⟨_, _, same, -⟩ <;>
    cases same
  exact ⟨rfl, left⟩

theorem WritesNumber.of_sign {op : Operator} (writes : WritesNumber value operand)
    (parts : ⟨.operator op, span⟩ :: behind = operand ++ tail)
    : ∃ tokens, WritesNumber value tokens ∧ behind = tokens ++ tail := by
  rcases writes.cases_first parts with ⟨same, -⟩ | ⟨_, _, same, inner, left⟩ | ⟨_, _, same, -⟩ <;>
    cases same
  exact ⟨_, inner, left⟩

theorem WritesNumber.of_openParen (writes : WritesNumber value operand)
    (parts : ⟨.openParen, span⟩ :: behind = operand ++ tail)
    : ∃ closed tokens, WritesNumber value tokens
        ∧ behind = tokens ++ ⟨.closeParen, closed⟩ :: tail := by
  rcases writes.cases_first parts with ⟨same, -⟩ | ⟨_, _, same, -⟩ | ⟨_, _, same, inner, left⟩ <;>
    cases same
  exact ⟨_, _, inner, left⟩

end

-----------------------------------------------------------------------------------------
-- Reading written numbers
-----------------------------------------------------------------------------------------

/-- A tree that is a number was read from one that is written, by induction over the reading. -/
theorem Reads.exists_writesNumber (reads : Reads category input formula rest)
    (known : formula.literal? = some value)
    : ∃ operand, WritesNumber value operand ∧ input = operand ++ rest := by
  induction reads with
  | number =>
      cases known
      exact ⟨_, .literal, rfl⟩
  | @group opened closed _ _ _ _ ih =>
      obtain ⟨operand, writes, rfl⟩ := ih known
      refine ⟨⟨.openParen, opened⟩ :: (operand ++ [⟨.closeParen, closed⟩]), .group writes, ?_⟩
      rw [List.cons_append, List.append_assoc]
      rfl
  | ofAtom _ ih | ofPower _ ih | ofUnary _ ih | ofTerm _ ih => exact ih known
  | plus _ ih =>
      obtain ⟨operand, writes, rfl⟩ := ih known
      exact ⟨_, .sign (.inl rfl) writes, rfl⟩
  | minus _ ih =>
      obtain ⟨operand, writes, rfl⟩ := ih known
      exact ⟨_, .sign (.inr rfl) writes, rfl⟩
  | name _ | emptyCall | call _ _ | firstArgument _ _ | nextArgument _ _ _ _ | power _ _ _ _
  | product _ _ _ _ _ | sum _ _ _ _ _ =>
      cases known

/-- What starts with a written number is not left before all of that is read, by induction over the
reading.
-/
theorem Reads.length_le (reads : Reads category input formula rest)
    {operand tail : List (Spanned Token)} (writes : WritesNumber value operand)
    (parts : input = operand ++ tail)
    : rest.length ≤ tail.length := by
  induction reads generalizing operand tail with
  | number => exact Nat.le_of_eq (congrArg _ (writes.of_number parts).2)
  | name _ | emptyCall | firstArgument _ _ => exact (writes.of_name parts).elim
  | group _ ih =>
      obtain ⟨closed, tokens, inner, left⟩ := writes.of_openParen parts
      exact Nat.le_of_succ_le_succ (ih inner left)
  | call _ ih => exact Nat.le_of_succ_le (ih writes parts)
  | ofAtom _ ih | ofPower _ ih | ofUnary _ ih | ofTerm _ ih => exact ih writes parts
  | plus _ ih | minus _ ih =>
      obtain ⟨tokens, inner, left⟩ := writes.of_sign parts
      exact ih inner left
  | nextArgument _ next ih _ | power _ next ih _ | product _ _ next ih _ | sum _ _ next ih _ =>
      exact Nat.le_trans next.isSuffix.length_le (Nat.le_of_succ_le (ih writes parts))

/-- A reading that stops before a token does not pass over a written number and more. -/
theorem Reads.not_writesNumber {token : Spanned Token} {behind operand : List (Spanned Token)}
    (reads : Reads category input formula (token :: behind)) (later : rest <:+ behind)
    (writes : WritesNumber value operand) (parts : input = operand ++ rest)
    : False :=
  absurd (Nat.le_trans (reads.length_le writes parts) later.length_le) (Nat.not_succ_le_self _)

/-- A written number is read as its literal, by induction over the reading: an operator between two
operands is not come to within the number, and not behind it either.
-/
theorem Reads.literal?_of_writesNumber (reads : Reads category input formula rest)
    {operand : List (Spanned Token)} (writes : WritesNumber value operand)
    (parts : input = operand ++ rest)
    : formula.literal? = some value := by
  induction reads generalizing operand with
  | number => exact congrArg some (writes.of_number parts).1
  | name _ | emptyCall | firstArgument _ _ => exact (writes.of_name parts).elim
  | group inner ih =>
      obtain ⟨closed, tokens, written, left⟩ := writes.of_openParen parts
      obtain ⟨front, same⟩ := inner.isSuffix
      have split := List.append_inj' (same.trans left) rfl
      exact ih written (left.trans (congrArg _ split.2.symm))
  | call head _ => exact (head.not_writesNumber (List.suffix_refl _) writes parts).elim
  | ofAtom _ ih | ofPower _ ih | ofUnary _ ih | ofTerm _ ih => exact ih writes parts
  | plus _ ih | minus _ ih =>
      obtain ⟨tokens, inner, left⟩ := writes.of_sign parts
      exact ih inner left
  | nextArgument first next _ _ | power first next _ _ | product _ first next _ _
  | sum _ first next _ _ =>
      exact (first.not_writesNumber next.isSuffix writes parts).elim

/-- What was read is a number exactly if a number was written. -/
theorem Reads.literal?_eq_some_iff {operand : List (Spanned Token)}
    (reads : Reads category (operand ++ rest) formula rest)
    : formula.literal? = some value ↔ WritesNumber value operand := by
  constructor
  · intro known
    obtain ⟨tokens, writes, same⟩ := reads.exists_writesNumber known
    exact List.append_cancel_right same ▸ writes
  · intro writes
    exact reads.literal?_of_writesNumber writes rfl

end Grammar

end FormulaCompiler
