import FormulaCompiler.Proofs.CallKinds

/-! The parts of trees, and trees in which every call is one of a function of as many arguments.
Such a tree is evaluated and turned into code without ever coming to a call that means nothing.
-/

namespace FormulaCompiler

namespace Expr

/-- The parts of a tree: the tree itself, and the parts of its operands. -/
@[simp] def parts : Expr → List Expr
  | .parameter => [.parameter]
  | .constant value => [.constant value]
  | .negate arg => .negate arg :: arg.parts
  | .binary op left right => .binary op left right :: (left.parts ++ right.parts)
  | .call1 function arg => .call1 function arg :: arg.parts
  | .call2 function left right => .call2 function left right :: (left.parts ++ right.parts)

theorem mem_parts (expr : Expr) : expr ∈ expr.parts := by
  cases expr <;> simp

/-- Whether a tree that is a call calls a function of as many arguments. -/
@[simp] def CallsItsKind : Expr → Prop
  | .call1 function _ => ∃ apply, function.member = .unary apply
  | .call2 function _ _ => ∃ apply, function.member = .binary apply
  | _ => True

/-- Whether every call in a tree is one of a function of as many arguments. -/
def WellKinded (expr : Expr) : Prop :=
  ∀ part ∈ expr.parts, part.CallsItsKind

section

variable {op : Operator} {function : Export} {value : Double} {arg left right : Expr}

@[simp] theorem wellKinded_parameter : WellKinded .parameter := by
  simp [WellKinded]

@[simp] theorem wellKinded_constant : WellKinded (.constant value) := by
  simp [WellKinded]

@[simp] theorem wellKinded_negate : WellKinded (.negate arg) ↔ arg.WellKinded := by
  simp [WellKinded]

@[simp] theorem wellKinded_binary
    : WellKinded (.binary op left right) ↔ left.WellKinded ∧ right.WellKinded := by
  simp [WellKinded, or_imp, forall_and]

@[simp] theorem wellKinded_call1
    : WellKinded (.call1 function arg)
      ↔ (∃ apply, function.member = .unary apply) ∧ arg.WellKinded := by
  simp [WellKinded]

@[simp] theorem wellKinded_call2
    : WellKinded (.call2 function left right)
      ↔ (∃ apply, function.member = .binary apply) ∧ left.WellKinded ∧ right.WellKinded := by
  simp [WellKinded, or_imp, forall_and]

end

-----------------------------------------------------------------------------------------
-- Evaluation that refuses calls without a meaning
-----------------------------------------------------------------------------------------

/-- The value of an expression, unless a call in it is one of something that is no function of so
many arguments.
-/
def eval? (x : Double) : Expr → Option Double
  | .parameter => some x
  | .constant value => some value
  | .negate arg => do
    let value ← arg.eval? x
    return -value
  | .binary op left right => do
    let first ← left.eval? x
    let second ← right.eval? x
    return op.apply first second
  | .call1 function arg => do
    let value ← arg.eval? x
    match function.member with
    | .unary apply => some (apply value)
    | _ => none
  | .call2 function left right => do
    let first ← left.eval? x
    let second ← right.eval? x
    match function.member with
    | .binary apply => some (apply first second)
    | _ => none

/-- No call without a meaning is come to in a tree of which all calls have one. -/
theorem WellKinded.eval?_eq {expr : Expr} (kinded : expr.WellKinded) (x : Double)
    : expr.eval? x = some (expr.eval x) := by
  induction expr with
  | parameter | constant _ => rfl
  | negate arg ih =>
      rw [eval?, ih (wellKinded_negate.mp kinded)]
      rfl
  | binary op left right leftIH rightIH =>
      obtain ⟨first, second⟩ := wellKinded_binary.mp kinded
      rw [eval?, leftIH first, rightIH second]
      rfl
  | call1 function arg ih =>
      obtain ⟨⟨apply, kind⟩, operand⟩ := wellKinded_call1.mp kinded
      rw [eval?, eval, ih operand, kind]
      rfl
  | call2 function left right leftIH rightIH =>
      obtain ⟨⟨apply, kind⟩, first, second⟩ := wellKinded_call2.mp kinded
      rw [eval?, eval, leftIH first, rightIH second, kind]
      rfl

end Expr

end FormulaCompiler
