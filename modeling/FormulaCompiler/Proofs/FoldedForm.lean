import FormulaCompiler.Proofs.Folding
import FormulaCompiler.Proofs.WellKinded

/-! What folding leaves of a tree in which all calls have a meaning: a constant, or a tree that uses
the parameter and in which every part that does not use it is a constant. Folding that again changes
nothing.
-/

namespace FormulaCompiler.Expr

-----------------------------------------------------------------------------------------
-- Nodes with an operand that uses the parameter
-----------------------------------------------------------------------------------------

section

variable {op : Operator} {function : Export} {arg left right : Expr}

theorem fold_negate_of_uses (uses : arg.fold.usesParameter)
    : (negate arg).fold = .negate arg.fold := by
  rw [fold]
  split
  · rename_i value folded
    rw [folded] at uses
    cases uses
  · rfl

theorem fold_binary_of_uses (uses : left.fold.usesParameter || right.fold.usesParameter)
    : (binary op left right).fold = .binary op left.fold right.fold := by
  rw [fold]
  split
  · rename_i l r foldedLeft foldedRight
    rw [foldedLeft, foldedRight] at uses
    cases uses
  · rfl

theorem fold_call1_of_uses (uses : arg.fold.usesParameter)
    : (call1 function arg).fold = .call1 function arg.fold := by
  rw [fold]
  split
  · rename_i apply value kind folded
    rw [folded] at uses
    cases uses
  · rfl

theorem fold_call2_of_uses (uses : left.fold.usesParameter || right.fold.usesParameter)
    : (call2 function left right).fold = .call2 function left.fold right.fold := by
  rw [fold]
  split
  · rename_i apply l r kind foldedLeft foldedRight
    rw [foldedLeft, foldedRight] at uses
    cases uses
  · rfl

end

-----------------------------------------------------------------------------------------
-- Whole trees
-----------------------------------------------------------------------------------------

/-- (FoldsTo expr folded) says that (folded) is a constant where (expr) does not use the parameter,
and that elsewhere the node stays and its operands are folded. One of them uses the parameter then.
-/
inductive FoldsTo : Expr → Expr → Prop
  | constant {expr value} (unused : expr.usesParameter = false) : FoldsTo expr (.constant value)
  | parameter : FoldsTo .parameter .parameter
  | negate {arg folded} (uses : folded.usesParameter) (operand : FoldsTo arg folded)
    : FoldsTo (.negate arg) (.negate folded)
  | binary {op left right first second} (uses : first.usesParameter || second.usesParameter)
    (leftOperand : FoldsTo left first) (rightOperand : FoldsTo right second)
    : FoldsTo (.binary op left right) (.binary op first second)
  | call1 {function arg folded} (uses : folded.usesParameter) (operand : FoldsTo arg folded)
    : FoldsTo (.call1 function arg) (.call1 function folded)
  | call2 {function left right first second}
    (uses : first.usesParameter || second.usesParameter)
    (leftOperand : FoldsTo left first) (rightOperand : FoldsTo right second)
    : FoldsTo (.call2 function left right) (.call2 function first second)

namespace FoldsTo

variable {expr folded : Expr}

theorem usesParameter_eq (folds : FoldsTo expr folded)
    : folded.usesParameter = expr.usesParameter := by
  induction folds with
  | constant unused => exact unused.symm
  | parameter => rfl
  | negate _ _ ih | call1 _ _ ih => exact ih
  | binary _ _ _ leftIH rightIH | call2 _ _ _ leftIH rightIH =>
      rw [usesParameter, leftIH, rightIH, usesParameter]

/-- A node that stays uses the parameter, so what does not use it is a constant. -/
theorem exists_constant (folds : FoldsTo expr folded) (unused : folded.usesParameter = false)
    : ∃ value, folded = .constant value := by
  cases folds with
  | constant _ => exact ⟨_, rfl⟩
  | parameter => cases unused
  | negate uses _ | call1 uses _ | binary uses _ _ | call2 uses _ _ =>
      cases uses.symm.trans unused

/-- The parts of what is folded are folded themselves, by induction over the folding. -/
theorem exists_constant_of_part (folds : FoldsTo expr folded) {part : Expr}
    (member : part ∈ folded.parts) (unused : part.usesParameter = false)
    : ∃ value, part = .constant value := by
  induction folds with
  | constant _ => exact ⟨_, List.mem_singleton.mp member⟩
  | parameter =>
      rw [List.mem_singleton.mp member] at unused
      cases unused
  | negate uses _ ih | call1 uses _ ih =>
      rcases List.mem_cons.mp member with rfl | within
      · cases uses.symm.trans unused
      · exact ih within
  | binary uses _ _ leftIH rightIH | call2 uses _ _ leftIH rightIH =>
      rcases List.mem_cons.mp member with rfl | within
      · cases uses.symm.trans unused
      · exact (List.mem_append.mp within).elim leftIH rightIH

/-- What is folded stays as it is, by induction over the folding. -/
theorem fold_eq (folds : FoldsTo expr folded) : folded.fold = folded := by
  induction folds with
  | constant _ | parameter => rfl
  | negate uses _ ih => rw [fold_negate_of_uses (ih.symm ▸ uses), ih]
  | binary uses _ _ leftIH rightIH =>
      rw [← leftIH, ← rightIH] at uses
      rw [fold_binary_of_uses uses, leftIH, rightIH]
  | call1 uses _ ih => rw [fold_call1_of_uses (ih.symm ▸ uses), ih]
  | call2 uses _ _ leftIH rightIH =>
      rw [← leftIH, ← rightIH] at uses
      rw [fold_call2_of_uses uses, leftIH, rightIH]

end FoldsTo

/-- Folding goes along the tree: where no operand uses the parameter, all of them have become
constants, and so does the node.
-/
theorem WellKinded.foldsTo {expr : Expr} (kinded : expr.WellKinded) : FoldsTo expr expr.fold := by
  induction expr with
  | parameter => exact .parameter
  | constant value => exact .constant rfl
  | negate arg ih =>
      have operand := ih (wellKinded_negate.mp kinded)
      cases uses : arg.fold.usesParameter with
      | true =>
          rw [fold_negate_of_uses uses]
          exact .negate uses operand
      | false =>
          obtain ⟨value, folded⟩ := operand.exists_constant uses
          rw [fold, folded]
          exact .constant (operand.usesParameter_eq ▸ uses)
  | binary op left right leftIH rightIH =>
      obtain ⟨leftKinded, rightKinded⟩ := wellKinded_binary.mp kinded
      have first := leftIH leftKinded
      have second := rightIH rightKinded
      cases uses : left.fold.usesParameter || right.fold.usesParameter with
      | true =>
          rw [fold_binary_of_uses uses]
          exact .binary uses first second
      | false =>
          obtain ⟨unusedLeft, unusedRight⟩ := Bool.or_eq_false_iff.mp uses
          obtain ⟨l, foldedLeft⟩ := first.exists_constant unusedLeft
          obtain ⟨r, foldedRight⟩ := second.exists_constant unusedRight
          rw [fold, foldedLeft, foldedRight]
          rw [first.usesParameter_eq, second.usesParameter_eq] at uses
          exact .constant uses
  | call1 function arg ih =>
      obtain ⟨⟨apply, kind⟩, argKinded⟩ := wellKinded_call1.mp kinded
      have operand := ih argKinded
      cases uses : arg.fold.usesParameter with
      | true =>
          rw [fold_call1_of_uses uses]
          exact .call1 uses operand
      | false =>
          obtain ⟨value, folded⟩ := operand.exists_constant uses
          rw [fold, folded, kind]
          exact .constant (operand.usesParameter_eq ▸ uses)
  | call2 function left right leftIH rightIH =>
      obtain ⟨⟨apply, kind⟩, leftKinded, rightKinded⟩ := wellKinded_call2.mp kinded
      have first := leftIH leftKinded
      have second := rightIH rightKinded
      cases uses : left.fold.usesParameter || right.fold.usesParameter with
      | true =>
          rw [fold_call2_of_uses uses]
          exact .call2 uses first second
      | false =>
          obtain ⟨unusedLeft, unusedRight⟩ := Bool.or_eq_false_iff.mp uses
          obtain ⟨l, foldedLeft⟩ := first.exists_constant unusedLeft
          obtain ⟨r, foldedRight⟩ := second.exists_constant unusedRight
          rw [fold, foldedLeft, foldedRight, kind]
          rw [first.usesParameter_eq, second.usesParameter_eq] at uses
          exact .constant uses

/-- Folding is complete: a tree in which all calls have a meaning becomes a constant exactly if it
does not use the parameter, which is then its value, and a part that is left of any other tree is a
constant or uses the parameter. Folding is stable: neither whether the parameter is used nor, the
second time, anything else changes. Witness: a node only stays where an operand uses the parameter.
-/
theorem fold_complete_and_stable (expr : Expr) (kinded : expr.WellKinded)
    : ((∃ value, expr.fold = .constant value) ↔ expr.usesParameter = false)
      ∧ (∀ value, expr.fold = .constant value → ∀ x, value = expr.eval x)
      ∧ (∀ part ∈ expr.fold.parts,
          part.usesParameter = false → ∃ value, part = .constant value)
      ∧ expr.fold.usesParameter = expr.usesParameter
      ∧ expr.fold.fold = expr.fold := by
  have folds := kinded.foldsTo
  refine ⟨⟨?_, ?_⟩, ?_, fun _ => folds.exists_constant_of_part, folds.usesParameter_eq,
    folds.fold_eq⟩
  · rintro ⟨value, folded⟩
    rw [← folds.usesParameter_eq, folded]
    rfl
  · intro unused
    exact folds.exists_constant (folds.usesParameter_eq.trans unused)
  · intro value folded x
    rw [← eval_fold expr x, folded]
    rfl

/-- In max(-(2 * 3), sign(x)) only the product is computed, with its sign. -/
theorem fold_max_of_product
    : let sign : Export := { name := "sign", member := .unary Library.sign }
      let largest : Export := { name := "max", member := .binary Library.largest }
      let product : Expr := .binary .multiply (.constant (.ofFloat 2)) (.constant (.ofFloat 3))
      let expr : Expr := .call2 largest (.negate product) (.call1 sign .parameter)
      expr.WellKinded
      ∧ (¬∃ value, expr.fold = .constant value)
      ∧ (∀ part ∈ expr.fold.parts, part.usesParameter = false → ∃ value, part = .constant value)
      ∧ expr.fold.fold = expr.fold := by
  intro sign largest product expr
  have kinded : expr.WellKinded := by
    simp [expr, product, sign, largest]
  obtain ⟨becomes, -, parts, -, stable⟩ := fold_complete_and_stable expr kinded
  refine ⟨kinded, fun constant => ?_, parts, stable⟩
  cases becomes.mp constant

end FormulaCompiler.Expr
