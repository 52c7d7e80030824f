import FormulaCompiler.Proofs.Grammar
import FormulaCompiler.Proofs.ShuntingYard.Steps

/-! Whatever the grammar derives is read by the stack of pending operators, and the output is the
postorder of its tree. A category leaves only operators of its own strength pending, so the next
weaker operator finds a complete left operand.
-/

namespace FormulaCompiler

/-- The least strength of the operators that something of a category leaves pending. The exponent
of a power may be a negation, so a power is no stronger than one.
-/
def Grammar.Category.strength : Category → Nat
  | .expr => 1
  | .term => 2
  | .unary | .power => 3
  | .atom | .callHead => 5

namespace ShuntingYard

open Grammar

-----------------------------------------------------------------------------------------
-- What is pending below an operand
-----------------------------------------------------------------------------------------

/-- No operator that a category is made of takes anything from the stack below it. -/
def Rests (category : Category) (pending : List Pending) : Prop :=
  ∀ op, category.strength ≤ strength op → Stays (·.leavesFor op) pending

theorem Rests.mono {category inner : Category} {pending : List Pending}
    (h : Rests category pending) (le : category.strength ≤ inner.strength)
    : Rests inner pending :=
  fun op bounded => h op (Nat.le_trans le bounded)

/-- Powers take nothing from the stack, and no other operators are in what a minus negates. -/
theorem Rests.of_three_le {category : Category} (strong : 3 ≤ category.strength)
    (pending : List Pending)
    : Rests category pending := by
  intro op bounded top _
  have isPower : op = .power := by
    cases op <;> simp only [ShuntingYard.strength] at bounded <;> first | rfl | omega
  exact Or.inr (isPower ▸ leavesFor_power top)

theorem Rests.unary (pending : List Pending) : Rests .unary pending :=
  .of_three_le (by simp [Category.strength]) pending

theorem Rests.power (pending : List Pending) : Rests .power pending :=
  .of_three_le (by simp [Category.strength]) pending

theorem Rests.atom (pending : List Pending) : Rests .atom pending :=
  .of_three_le (by simp [Category.strength]) pending

/-- Nothing passes an opening. -/
theorem Rests.of_opening (category : Category) {top : Pending} (opening : top.item? = none)
    (pending : List Pending)
    : Rests category (top :: pending) := by
  intro op _ other same
  cases same
  exact Or.inl opening

/-- A stronger operand rests on a weaker operator. -/
theorem Rests.of_weaker {category : Category} {op : Operator}
    (weaker : strength op < category.strength) (span : Span) (pending : List Pending)
    : Rests category (.operator op span :: pending) := by
  intro other bounded top same
  cases same
  refine Or.inr (leavesFor_of_lt ?_)
  intro held known
  cases known
  exact Nat.lt_of_lt_of_le weaker bounded

-----------------------------------------------------------------------------------------
-- Passing over an operand
-----------------------------------------------------------------------------------------

/-- A run where an operand is expected goes from (input) to (rest) and comes to expect an operator.
It writes the items or holds them back in operators that are not weaker than (bound), and it
leaves (opened) below them.
-/
def PassesOver (bound : Nat) (items : List PostfixItem) (opened pending : List Pending)
    (input rest : List (Spanned Token))
    : Prop :=
  ∀ output expecting,
    expecting ≠ .operator
    → ∃ written operators,
        State.run ⟨output, pending, expecting⟩ input
          = State.run ⟨written, operators ++ (opened ++ pending), .operator⟩ rest
        ∧ AtLeast bound operators
        ∧ written.reverse ++ itemsOf operators = output.reverse ++ items

/-- How a run passes over something of a category. A call head stays open. -/
def Passes : Category → Formula → List (Spanned Token) → List (Spanned Token) → Prop
  | .callHead, .call path args span, input, rest =>
      ∀ pending,
        PassesOver 1 (Formula.postorderAll args) [.call path span (args.length - 1)] pending
          input rest
  | .callHead, _, _, _ => False
  | category, formula, input, rest =>
      ∀ pending,
        Rests category pending
        → PassesOver category.strength formula.postorder [] pending input rest

theorem PassesOver.mono {bound lower : Nat} {items : List PostfixItem}
    {opened pending : List Pending} {input rest : List (Spanned Token)}
    (h : PassesOver bound items opened pending input rest) (le : lower ≤ bound)
    : PassesOver lower items opened pending input rest := by
  intro output expecting operand
  obtain ⟨written, operators, run, held, same⟩ := h output expecting operand
  exact ⟨written, operators, run, held.mono le, same⟩

/-- An operator that leaves nothing weaker below it closes its left operand. -/
theorem run_operator {op : Operator} {operators pending : List Pending}
    (held : ∀ top ∈ operators, top.strength?.isSome ∧ top.leavesFor op = true)
    (stays : Stays (·.leavesFor op) pending) (output : List PostfixItem) (span : Span)
    (rest : List (Spanned Token))
    : State.run ⟨output, operators ++ pending, .operator⟩ (⟨.operator op, span⟩ :: rest)
      = State.run
          ⟨(itemsOf operators).reverse ++ output, .operator op span :: pending, .operand⟩
          rest := by
  rw [State.run_step (by intro path opened behind impossible; cases impossible)]
  simp only [State.step, State.operator, if_true, writeWhile_append held stays, Except.bind]

/-- An operator between two operands is passed over with them. Witness: the first operand leaves
only operators that the operator sends out, and the second one rests on the operator.
-/
theorem PassesOver.between {op : Operator} {bound next : Nat} {left right : List PostfixItem}
    {pending : List Pending} {span : Span} {input behind rest : List (Spanned Token)}
    (level : strength op = bound) (weak : op ≠ .power) (stays : Stays (·.leavesFor op) pending)
    (first : PassesOver bound left [] pending input (⟨.operator op, span⟩ :: behind))
    (second : PassesOver next right [] (.operator op span :: pending) behind rest)
    (le : bound ≤ next)
    : PassesOver bound (left ++ right ++ [⟨.operator op, span⟩]) [] pending input rest := by
  intro output expecting operand
  obtain ⟨written, operators, run, held, same⟩ := first output expecting operand
  have leave : ∀ top ∈ operators, top.strength?.isSome ∧ top.leavesFor op = true := by
    intro top member
    obtain ⟨strength, known, bounded⟩ := held top member
    exact ⟨by rw [known]; rfl, leavesFor_of_le known (level ▸ bounded) weak⟩
  rw [List.nil_append, run_operator leave stays] at run
  obtain ⟨later, others, runRight, heldRight, sameRight⟩ :=
    second ((itemsOf operators).reverse ++ written) .operand (by decide)
  refine ⟨later, others ++ [.operator op span], ?_, ?_, ?_⟩
  · simpa using run.trans runRight
  · refine (heldRight.mono le).append ?_
    intro top member
    cases List.mem_singleton.mp member
    exact ⟨_, rfl, Nat.le_of_eq level.symm⟩
  · simp only [List.reverse_append, List.reverse_reverse, same] at sameRight
    simp [← List.append_assoc, sameRight]

/-- An atom leaves nothing pending, so a power finds its base complete. -/
theorem PassesOver.power {base exponent : List PostfixItem} {pending : List Pending}
    {span : Span} {input behind rest : List (Spanned Token)}
    (left : PassesOver 5 base [] pending input (⟨.operator .power, span⟩ :: behind))
    (right : PassesOver 3 exponent [] (.operator .power span :: pending) behind rest)
    : PassesOver 3 (base ++ exponent ++ [⟨.operator .power, span⟩]) [] pending input rest := by
  intro output expecting operand
  obtain ⟨written, operators, run, held, same⟩ := left output expecting operand
  cases held.eq_nil
  have stays : Stays (·.leavesFor .power) pending :=
    fun top _ => Or.inr (leavesFor_power top)
  rw [List.nil_append, run_operator (by intro top member; cases member) stays] at run
  obtain ⟨later, others, runRight, heldRight, sameRight⟩ := right written .operand (by decide)
  refine ⟨later, others ++ [.operator .power span], ?_, ?_, ?_⟩
  · simpa using run.trans runRight
  · refine heldRight.append ?_
    intro top member
    cases List.mem_singleton.mp member
    exact ⟨_, rfl, by decide⟩
  · simp only [itemsOf_nil, List.append_nil] at same
    simp [← List.append_assoc, sameRight, same]

/-- A minus waits below its operand. -/
theorem PassesOver.minus {items : List PostfixItem} {pending : List Pending} {span : Span}
    {behind rest : List (Spanned Token)}
    (operand : PassesOver 3 items [] (.negate span :: pending) behind rest)
    : PassesOver 3 (items ++ [⟨.negate, span⟩]) [] pending
        (⟨.operator .subtract, span⟩ :: behind) rest := by
  intro output expecting isOperand
  obtain ⟨written, operators, run, held, same⟩ := operand output .operand (by decide)
  refine ⟨written, operators ++ [.negate span], ?_, ?_, ?_⟩
  · rw [State.run_step (by intro path opened behind impossible; cases impossible)]
    simpa [State.step, State.operator, isOperand, Except.bind] using run
  · refine held.append ?_
    intro top member
    cases List.mem_singleton.mp member
    exact ⟨_, rfl, by decide⟩
  · simp [← List.append_assoc, same]

/-- A plus before an operand changes nothing. -/
theorem PassesOver.plus {items : List PostfixItem} {pending : List Pending} {span : Span}
    {behind rest : List (Spanned Token)}
    (operand : PassesOver 3 items [] pending behind rest)
    : PassesOver 3 items [] pending (⟨.operator .add, span⟩ :: behind) rest := by
  intro output expecting isOperand
  obtain ⟨written, operators, run, held, same⟩ := operand output .operand (by decide)
  refine ⟨written, operators, ?_, held, same⟩
  rw [State.run_step (by intro path opened behind impossible; cases impossible)]
  simpa [State.step, State.operator, isOperand, Except.bind] using run

/-- The operators of what a parenthesis opens are written up to the opening. -/
theorem writeGroup_append {operators : List Pending} {bound : Nat}
    (held : AtLeast bound operators) (top : Pending) (opening : top.item? = none)
    (pending : List Pending) (output : List PostfixItem)
    : writeGroup output (operators ++ top :: pending)
      = ((itemsOf operators).reverse ++ output, top :: pending) := by
  refine writeWhile_append ?_ ?_ output
  · intro other member
    obtain ⟨strength, known, _⟩ := held other member
    exact ⟨by rw [known]; rfl, rfl⟩
  · intro other same
    cases same
    exact Or.inl opening

/-- A group leaves nothing pending. -/
theorem PassesOver.group {items : List PostfixItem} {pending : List Pending}
    {opened closed : Span} {behind rest : List (Spanned Token)}
    (inner : PassesOver 1 items [] (.group opened :: pending) behind
      (⟨.closeParen, closed⟩ :: rest))
    : PassesOver 5 items [] pending (⟨.openParen, opened⟩ :: behind) rest := by
  intro output expecting operand
  obtain ⟨written, operators, run, held, same⟩ := inner output .firstOperand (by decide)
  have drained := writeGroup_append held (.group opened) rfl pending written
  refine ⟨(itemsOf operators).reverse ++ written, [], ?_, .nil 5, ?_⟩
  · rw [State.run_step (by intro path opened behind impossible; cases impossible)]
    simp only [State.step, State.opening, operand, if_false, Except.bind, run]
    rw [State.run_step (by intro path opened behind impossible; cases impossible)]
    simp [State.step, State.closing, drained, Except.bind]
  · simpa using same

/-- A call without arguments leaves nothing pending. -/
theorem passesOver_emptyCall (path : String) (span opened closed : Span)
    (pending : List Pending) (rest : List (Spanned Token))
    : PassesOver 5 [⟨.call path 0, span.through closed⟩] [] pending
        (⟨.name path, span⟩ :: ⟨.openParen, opened⟩ :: ⟨.closeParen, closed⟩ :: rest)
        rest := by
  intro output expecting operand
  refine ⟨⟨.call path 0, span.through closed⟩ :: output, [], ?_, .nil 5, by simp⟩
  rw [State.run_call]
  simp only [State.opening, operand, if_false, Except.bind]
  rw [State.run_step (by intro path opened behind impossible; cases impossible)]
  simp [State.step, State.closing, writeGroup, writeWhile, Pending.item?, Except.bind,
    Span.through]

/-- A call head is open behind its first argument. -/
theorem PassesOver.firstArgument {items : List PostfixItem} {pending : List Pending}
    {path : String} {span opened : Span} {behind rest : List (Spanned Token)}
    (first : PassesOver 1 items [] (.call path (span.through opened) 0 :: pending) behind rest)
    : PassesOver 1 items [.call path (span.through opened) 0] pending
        (⟨.name path, span⟩ :: ⟨.openParen, opened⟩ :: behind) rest := by
  intro output expecting operand
  obtain ⟨written, operators, run, held, same⟩ := first output .firstOperand (by decide)
  refine ⟨written, operators, ?_, held, same⟩
  rw [State.run_call]
  simpa only [State.opening, operand, if_false, Except.bind, List.nil_append,
    List.singleton_append] using run

/-- A comma counts the argument before it, whose operators are written. -/
theorem PassesOver.nextArgument {items more : List PostfixItem} {pending : List Pending}
    {path : String} {span comma : Span} {commas : Nat}
    {input behind rest : List (Spanned Token)}
    (head : PassesOver 1 items [.call path span commas] pending input
      (⟨.comma, comma⟩ :: behind))
    (next : PassesOver 1 more [] (.call path span (commas + 1) :: pending) behind rest)
    : PassesOver 1 (items ++ more) [.call path span (commas + 1)] pending input rest := by
  intro output expecting operand
  obtain ⟨written, operators, run, held, same⟩ := head output expecting operand
  have drained := writeGroup_append held (.call path span commas) rfl pending written
  rw [State.run_step (by intro path opened behind impossible; cases impossible)] at run
  simp only [State.step, State.comma, if_true, List.singleton_append, drained,
    Except.bind] at run
  obtain ⟨later, others, runNext, heldNext, sameNext⟩ :=
    next ((itemsOf operators).reverse ++ written) .operand (by decide)
  refine ⟨later, others, run.trans runNext, heldNext, ?_⟩
  simp only [List.reverse_append, List.reverse_reverse, same] at sameNext
  simpa only [List.append_assoc] using sameNext

/-- A closing parenthesis ends a call, which has one argument more than commas. -/
theorem PassesOver.call {items : List PostfixItem} {pending : List Pending} {path : String}
    {span closed : Span} {commas : Nat} {input rest : List (Spanned Token)}
    (head : PassesOver 1 items [.call path span commas] pending input
      (⟨.closeParen, closed⟩ :: rest))
    : PassesOver 5 (items ++ [⟨.call path (commas + 1), span.through closed⟩]) [] pending
        input rest := by
  intro output expecting operand
  obtain ⟨written, operators, run, held, same⟩ := head output expecting operand
  have drained := writeGroup_append held (.call path span commas) rfl pending written
  rw [State.run_step (by intro path opened behind impossible; cases impossible)] at run
  refine ⟨⟨.call path (commas + 1), span.through closed⟩
    :: ((itemsOf operators).reverse ++ written), [], run.trans ?_, .nil 5, ?_⟩
  · simp [State.step, State.closing, drained, Except.bind]
  · simp [← List.append_assoc, same]

-----------------------------------------------------------------------------------------
-- Every derivation is read
-----------------------------------------------------------------------------------------

/-- A run passes over whatever the grammar reads, by induction over the derivation. -/
theorem passes_of_reads {category : Category} {formula : Formula}
    {input rest : List (Spanned Token)} (reads : Reads category input formula rest)
    : Passes category formula input rest := by
  induction reads with
  | @number value span rest =>
      intro pending _ output expecting operand
      refine ⟨⟨.number value, span⟩ :: output, [], ?_, .nil 5, by simp [Formula.postorder]⟩
      rw [State.run_step (by intro path opened behind impossible; cases impossible)]
      simp only [State.step, State.operand, operand, if_false, Except.bind, List.nil_append]
  | @name path span rest notCalled =>
      intro pending _ output expecting operand
      refine ⟨⟨.name path, span⟩ :: output, [], ?_, .nil 5, by simp [Formula.postorder]⟩
      rw [State.run_step (fun _ opened behind _ => notCalled opened behind)]
      simp only [State.step, State.operand, operand, if_false, Except.bind, List.nil_append]
  | group _ ih =>
      intro pending _
      exact (ih _ (.of_opening _ rfl pending)).group
  | emptyCall =>
      intro pending _
      exact passesOver_emptyCall _ _ _ _ pending _
  | @call path args span closed input rest head ih =>
      intro pending _
      have counted : args.length - 1 + 1 = args.length :=
        Nat.sub_add_cancel (List.length_pos_iff.mpr head.args_ne_nil)
      have passed := (ih pending).call
      rwa [counted] at passed
  | firstArgument _ ih =>
      intro pending
      simpa using (ih _ (.of_opening _ rfl pending)).firstArgument
  | @nextArgument path args span comma input behind arg rest head _ ihHead ihNext =>
      intro pending
      have counted : (args ++ [arg]).length - 1 = args.length - 1 + 1 := by
        have positive := List.length_pos_iff.mpr head.args_ne_nil
        simp only [List.length_append, List.length_singleton]
        omega
      rw [Formula.postorderAll_append, Formula.postorderAll_singleton, counted]
      exact (ihHead pending).nextArgument (ihNext _ (.of_opening _ rfl pending))
  | ofAtom _ ih =>
      intro pending _
      exact (ih pending (.atom _)).mono (by decide)
  | power _ _ ihLeft ihRight =>
      intro pending _
      exact (ihLeft pending (.atom _)).power (ihRight _ (.unary _))
  | ofPower _ ih =>
      intro pending _
      exact ih pending (.power _)
  | plus _ ih =>
      intro pending _
      exact (ih pending (.unary _)).plus
  | minus _ ih =>
      intro pending _
      exact (ih _ (.unary _)).minus
  | ofUnary _ ih =>
      intro pending _
      exact (ih pending (.unary _)).mono (by decide)
  | product isProduct _ _ ihFirst ihSecond =>
      intro pending rests
      have level := strength_of_isProduct isProduct
      have stays := rests _ (Nat.le_of_eq level.symm)
      exact (ihFirst pending rests).between level (ne_power_of_isProduct isProduct) stays
        (ihSecond _ (.unary _)) (by decide)
  | ofTerm _ ih =>
      intro pending rests
      exact (ih pending (rests.mono (by decide))).mono (by decide)
  | sum isSum _ _ ihFirst ihSecond =>
      intro pending rests
      have level := strength_of_isSum isSum
      have stays := rests _ (Nat.le_of_eq level.symm)
      exact (ihFirst pending rests).between level (ne_power_of_isSum isSum) stays
        (ihSecond _ (.of_weaker (by rw [level]; decide) _ _)) (by decide)

end ShuntingYard

end FormulaCompiler
