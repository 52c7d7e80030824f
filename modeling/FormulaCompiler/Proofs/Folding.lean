import FormulaCompiler.Expr

/-! Folding computes constant parts ahead of time and changes no value. Trees that no formula is
bound to are included: a call of something that is no such function is not folded.
-/

namespace FormulaCompiler.Expr

section

variable {x : Double}

/-- A folded negation has the value of the negation. The operand may have become a constant. -/
theorem eval_fold_negate {arg : Expr} (same : arg.fold.eval x = arg.eval x)
    : (negate arg).fold.eval x = (negate arg).eval x := by
  have unfolded : (negate arg.fold).eval x = (negate arg).eval x := by
    simp only [eval, same]
  rw [← unfolded, fold]
  split
  · rename_i value folded
    simp only [folded, eval]
  · rfl

/-- A folded operator has the value of the operator, with its operands in the same order. -/
theorem eval_fold_binary {op : Operator} {left right : Expr}
    (sameLeft : left.fold.eval x = left.eval x)
    (sameRight : right.fold.eval x = right.eval x)
    : (binary op left right).fold.eval x = (binary op left right).eval x := by
  have unfolded
      : (binary op left.fold right.fold).eval x = (binary op left right).eval x := by
    simp only [eval, sameLeft, sameRight]
  rw [← unfolded, fold]
  split
  · rename_i l r foldedLeft foldedRight
    simp only [foldedLeft, foldedRight, eval]
  · rfl

/-- A folded call has the value of the call, whether or not its member is a function of one
argument.
-/
theorem eval_fold_call1 {function : Export} {arg : Expr}
    (same : arg.fold.eval x = arg.eval x)
    : (call1 function arg).fold.eval x = (call1 function arg).eval x := by
  have unfolded : (call1 function arg.fold).eval x = (call1 function arg).eval x := by
    simp only [eval, same]
  rw [← unfolded, fold]
  split
  · rename_i apply value kind folded
    simp only [folded, eval, kind]
  · rfl

/-- A folded call has the value of the call, whether or not its member is a function of two
arguments.
-/
theorem eval_fold_call2 {function : Export} {left right : Expr}
    (sameLeft : left.fold.eval x = left.eval x)
    (sameRight : right.fold.eval x = right.eval x)
    : (call2 function left right).fold.eval x = (call2 function left right).eval x := by
  have unfolded
      : (call2 function left.fold right.fold).eval x = (call2 function left right).eval x := by
    simp only [eval, sameLeft, sameRight]
  rw [← unfolded, fold]
  split
  · rename_i apply l r kind foldedLeft foldedRight
    simp only [foldedLeft, foldedRight, eval, kind]
  · rfl

end

/-- Folding changes no value, by induction over the tree: one lemma for each kind of node. -/
theorem eval_fold (expr : Expr) (x : Double) : expr.fold.eval x = expr.eval x := by
  induction expr with
  | parameter | constant _ => rfl
  | negate arg ih => exact eval_fold_negate ih
  | binary op left right ihLeft ihRight => exact eval_fold_binary ihLeft ihRight
  | call1 function arg ih => exact eval_fold_call1 ih
  | call2 function left right ihLeft ihRight => exact eval_fold_call2 ihLeft ihRight

/-- Folding changes no bit of any value, whatever the tree and the parameter are. Witness: equal
values, and so equal bits, also where neither is a number.
-/
theorem toBits_eval_fold (expr : Expr) (x : Double)
    : (expr.fold.eval x).toBits = (expr.eval x).toBits :=
  congrArg Double.toBits (eval_fold expr x)

end FormulaCompiler.Expr
