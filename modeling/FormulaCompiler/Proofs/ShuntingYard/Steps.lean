import FormulaCompiler.ShuntingYard

/-! What single steps do to the stack of pending operators. A run is known from the next token, and
from the one behind it where that token is a name.
-/

namespace FormulaCompiler.ShuntingYard

-----------------------------------------------------------------------------------------
-- Strengths of pending operators
-----------------------------------------------------------------------------------------

/-- The strength of a pending operator. Openings have none. -/
def Pending.strength? : Pending → Option Nat
  | .negate _ => some negateStrength
  | .operator op _ => some (strength op)
  | .group _ | .call _ _ _ => none

theorem strength_of_isSum {op : Operator} (isSum : op = .add ∨ op = .subtract)
    : strength op = 1 := by
  rcases isSum with rfl | rfl <;> rfl

theorem strength_of_isProduct {op : Operator}
    (isProduct : op = .multiply ∨ op = .divide ∨ op = .remainder)
    : strength op = 2 := by
  rcases isProduct with rfl | rfl | rfl <;> rfl

theorem ne_power_of_isSum {op : Operator} (isSum : op = .add ∨ op = .subtract)
    : op ≠ .power := by
  rcases isSum with rfl | rfl <;> simp

theorem ne_power_of_isProduct {op : Operator}
    (isProduct : op = .multiply ∨ op = .divide ∨ op = .remainder)
    : op ≠ .power := by
  rcases isProduct with rfl | rfl | rfl <;> simp

theorem isSum_or_isProduct_or_power (op : Operator)
    : (op = .add ∨ op = .subtract)
      ∨ (op = .multiply ∨ op = .divide ∨ op = .remainder)
      ∨ op = .power := by
  cases op <;> simp

/-- The steps that pending operators write, the innermost first. -/
def itemsOf (pending : List Pending) : List PostfixItem :=
  pending.filterMap Pending.item?

@[simp] theorem itemsOf_nil : itemsOf [] = [] := rfl

@[simp] theorem itemsOf_negate (span : Span) (pending : List Pending)
    : itemsOf (.negate span :: pending) = ⟨.negate, span⟩ :: itemsOf pending := rfl

@[simp] theorem itemsOf_operator (op : Operator) (span : Span) (pending : List Pending)
    : itemsOf (.operator op span :: pending) = ⟨.operator op, span⟩ :: itemsOf pending := rfl

@[simp] theorem itemsOf_append (inner outer : List Pending)
    : itemsOf (inner ++ outer) = itemsOf inner ++ itemsOf outer :=
  List.filterMap_append

/-- All of these are operators, and none is weaker than (bound). -/
def AtLeast (bound : Nat) (operators : List Pending) : Prop :=
  ∀ top ∈ operators, ∃ held, top.strength? = some held ∧ bound ≤ held

theorem AtLeast.nil (bound : Nat) : AtLeast bound [] := by
  intro top member
  cases member

theorem AtLeast.append {bound : Nat} {inner outer : List Pending}
    (hi : AtLeast bound inner) (ho : AtLeast bound outer)
    : AtLeast bound (inner ++ outer) := by
  intro top member
  rcases List.mem_append.mp member with early | late
  · exact hi top early
  · exact ho top late

theorem AtLeast.mono {bound lower : Nat} {operators : List Pending}
    (h : AtLeast bound operators) (le : lower ≤ bound)
    : AtLeast lower operators := by
  intro top member
  obtain ⟨held, known, bounded⟩ := h top member
  exact ⟨held, known, Nat.le_trans le bounded⟩

/-- Sums are the weakest operators, and powers the strongest. -/
theorem strength?_bounds {top : Pending} {held : Nat} (known : top.strength? = some held)
    : 1 ≤ held ∧ held ≤ 4 := by
  cases top with
  | negate span => cases known; decide
  | operator op span => cases known; cases op <;> decide
  | group span => cases known
  | call path span commas => cases known

/-- Nothing is at least as strong as an atom binds. -/
theorem AtLeast.eq_nil {operators : List Pending} (h : AtLeast 5 operators)
    : operators = [] := by
  cases operators with
  | nil => rfl
  | cons top rest =>
      obtain ⟨held, known, bounded⟩ := h top List.mem_cons_self
      have bounds := strength?_bounds known
      omega

/-- Whether something pending leaves is decided by its strength alone. -/
theorem leavesFor_of_strength {top : Pending} {held : Nat}
    (known : top.strength? = some held) (op : Operator)
    : top.leavesFor op = goesBefore held op := by
  cases top <;> cases known <;> rfl

/-- An operator that is not a power makes all pending operators of its strength leave. -/
theorem leavesFor_of_le {op : Operator} {top : Pending} {held : Nat}
    (known : top.strength? = some held) (le : strength op ≤ held) (weak : op ≠ .power)
    : top.leavesFor op = true := by
  have left : isRightAssociative op = false := by cases op <;> trivial
  rw [leavesFor_of_strength known, goesBefore, left]
  simpa using le

/-- A power makes nothing leave, not even another power. -/
theorem leavesFor_power (top : Pending) : top.leavesFor .power = false := by
  cases top with
  | operator op span => cases op <;> rfl
  | _ => rfl

/-- Weaker operators stay where they are. -/
theorem leavesFor_of_lt {op : Operator} {top : Pending}
    (weaker : ∀ held, top.strength? = some held → held < strength op)
    : top.leavesFor op = false := by
  cases known : top.strength? with
  | none => cases top <;> first | rfl | cases known
  | some held =>
      have lt := weaker held known
      rw [leavesFor_of_strength known, goesBefore]
      split <;> simp only [decide_eq_false_iff_not] <;> omega

-----------------------------------------------------------------------------------------
-- Writing pending operators
-----------------------------------------------------------------------------------------

/-- The innermost pending thing stays, if there is one. -/
def Stays (leaves : Pending → Bool) (pending : List Pending) : Prop :=
  ∀ top ∈ pending.head?, top.item? = none ∨ leaves top = false

theorem Stays.nil (leaves : Pending → Bool) : Stays leaves [] := by
  intro top member
  cases member

theorem writeWhile_of_stays {leaves : Pending → Bool} {pending : List Pending}
    (stays : Stays leaves pending) (output : List PostfixItem)
    : writeWhile leaves output pending = (output, pending) := by
  cases pending with
  | nil => rfl
  | cons top rest =>
      rcases stays top rfl with opening | kept
      · simp only [writeWhile, opening]
      · rw [writeWhile]
        split
        · simp only [kept, Bool.false_eq_true, if_false]
        · rfl

theorem writeWhile_cons {leaves : Pending → Bool} {top : Pending} {item : PostfixItem}
    (isItem : top.item? = some item) (leave : leaves top = true)
    (output : List PostfixItem) (rest : List Pending)
    : writeWhile leaves output (top :: rest) = writeWhile leaves (item :: output) rest := by
  simp only [writeWhile, isItem, leave, if_true]

/-- Operators that all leave are written, by induction over them. -/
theorem writeWhile_append {leaves : Pending → Bool} {operators pending : List Pending}
    (leave : ∀ top ∈ operators, top.strength?.isSome ∧ leaves top = true)
    (stays : Stays leaves pending) (output : List PostfixItem)
    : writeWhile leaves output (operators ++ pending)
      = ((itemsOf operators).reverse ++ output, pending) := by
  induction operators generalizing output with
  | nil => exact writeWhile_of_stays stays output
  | cons top rest ih =>
      obtain ⟨isOperator, leaving⟩ := leave top List.mem_cons_self
      have later := ih (fun other member => leave other (List.mem_cons_of_mem _ member))
      obtain ⟨item, isItem⟩ : ∃ item, top.item? = some item := by
        cases top <;> simp_all [Pending.strength?, Pending.item?]
      rw [List.cons_append, writeWhile_cons isItem leaving, later]
      simp [itemsOf, isItem]

-----------------------------------------------------------------------------------------
-- Runs by their next token
-----------------------------------------------------------------------------------------

namespace State

/-- A name with an opening parenthesis behind it opens a call. -/
theorem run_call (state : State) (path : String) (span opened : Span)
    (rest : List (Spanned Token))
    : state.run (⟨.name path, span⟩ :: ⟨.openParen, opened⟩ :: rest)
      = (state.opening ⟨.name path, span⟩ (.call path (span.through opened) 0)).bind
          (·.run rest) := by
  rw [run]
  rfl

/-- Any other token is read by itself. -/
theorem run_step {token : Spanned Token} {rest : List (Spanned Token)}
    (single
      : ∀ path opened behind,
          token.content = .name path → rest ≠ ⟨.openParen, opened⟩ :: behind)
    (state : State)
    : state.run (token :: rest) = (state.step token).bind (·.run rest) := by
  rw [run]
  · rfl
  · intro path span opened behind isName isOpening
    exact single path opened behind (by rw [isName]) isOpening

end State

end FormulaCompiler.ShuntingYard
