import FormulaCompiler.Proofs.Binding
import FormulaCompiler.Proofs.CallKinds

/-! Whether items are bound to an expression only depends on how many values they take and leave:
each item has to find as many as it takes, and one has to be left at the end. What their names lead
to makes no difference.
-/

namespace FormulaCompiler

/-- How many values an item takes. Every item leaves one value in their place. -/
def PostfixNode.operandCount : PostfixNode → Nat
  | .number _ | .name _ => 0
  | .negate => 1
  | .operator _ => 2
  | .call _ count => count

/-- How many values there are behind items, where there are (height) in front of them and every item
finds as many as it takes.
-/
def heightAfter? (height : Nat) : List PostfixItem → Option Nat
  | [] => some height
  | item :: rest =>
    if item.content.operandCount ≤ height then
      heightAfter? (height - item.content.operandCount + 1) rest
    else
      none

theorem heightAfter?_append (height : Nat) (front back : List PostfixItem)
    : heightAfter? height (front ++ back)
      = (heightAfter? height front).bind fun reached => heightAfter? reached back := by
  induction front generalizing height with
  | nil => rfl
  | cons item rest ih =>
      rw [List.cons_append, heightAfter?, heightAfter?]
      split
      · exact ih _
      · rfl

namespace Scope

variable {scope : Scope} {stack : List Expr} {node : PostfixNode}

-----------------------------------------------------------------------------------------
-- One item
-----------------------------------------------------------------------------------------

/-- An item is applied exactly if there are as many expressions as it takes. -/
theorem reduce?_eq_none_iff
    : scope.reduce? stack node = none ↔ stack.length < node.operandCount := by
  cases node with
  | number value | name path => simp [reduce?, PostfixNode.operandCount]
  | negate => cases stack <;> simp [reduce?, PostfixNode.operandCount]
  | operator op =>
      rcases stack with _ | ⟨right, _ | ⟨left, below⟩⟩ <;>
        simp [reduce?, PostfixNode.operandCount]
  | call path count => simp [reduce?, PostfixNode.operandCount]

/-- An item leaves what lies below the expressions that it takes. -/
theorem length_below {reduction : Reduction} (reduced : scope.reduce? stack node = some reduction)
    : reduction.below.length + node.operandCount = stack.length := by
  cases node with
  | number value =>
      cases reduced
      rfl
  | name path =>
      cases reduced
      rw [ofResolved_below]
      rfl
  | negate =>
      cases stack <;> cases reduced
      rfl
  | operator op =>
      rcases stack with _ | ⟨right, _ | ⟨left, below⟩⟩ <;> cases reduced
      rfl
  | call path count =>
      rw [reduce?] at reduced
      split at reduced <;> cases reduced
      rename_i enough
      rw [ofResolved_below, List.length_drop]
      exact Nat.sub_add_cancel enough

-----------------------------------------------------------------------------------------
-- All items
-----------------------------------------------------------------------------------------

/-- By induction over the items: the stack is as high as the count of values says. -/
theorem isSome_bindOnto_iff (stack : List Expr) (items : List PostfixItem)
    : (scope.bindOnto stack items).1.isSome ↔ heightAfter? stack.length items = some 1 := by
  induction items generalizing stack with
  | nil => rcases stack with _ | ⟨expr, _ | ⟨next, below⟩⟩ <;> simp [bindOnto, heightAfter?]
  | cons item rest ih =>
      cases reduced : scope.reduce? stack item.content with
      | none =>
          have few := reduce?_eq_none_iff.mp reduced
          rw [bindOnto, reduced, heightAfter?, if_neg (Nat.not_le_of_lt few)]
          simp
      | some reduction =>
          have height := length_below reduced
          have left : stack.length - item.content.operandCount + 1
              = (reduction.expr :: reduction.below).length := by
            rw [List.length_cons]
            omega
          rw [bindOnto_cons reduced, heightAfter?, if_pos (by omega), left]
          exact ih _

end Scope

end FormulaCompiler
