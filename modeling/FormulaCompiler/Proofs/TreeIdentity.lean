import FormulaCompiler.Proofs.Folding
import FormulaCompiler.Proofs.LinkedCalls

/-! When two trees are the same one. They are compared by the bits of their constants and by the
names of what they call, which tells all trees apart that call members of the library: no two of
those have the same name.
-/

namespace FormulaCompiler

theorem Library.eq_of_lookup? {first second : Export} {name other : String}
    (looked : lookup? name = some first) (also : lookup? other = some second)
    (sameName : first.name = second.name)
    : first = second := by
  obtain ⟨-, rfl⟩ := lookup?_eq_some_iff.mp looked
  obtain ⟨-, rfl⟩ := lookup?_eq_some_iff.mp also
  exact Option.some.inj (looked.symm.trans (sameName ▸ also))

namespace Expr

-----------------------------------------------------------------------------------------
-- Identical trees
-----------------------------------------------------------------------------------------

/-- Whether two trees have the same shape, constants of the same bits at the same places, and calls
of the same members.
-/
inductive Identical : Expr → Expr → Prop
  | parameter : Identical .parameter .parameter
  | constant {value other} (sameBits : value.toBits = other.toBits)
    : Identical (.constant value) (.constant other)
  | negate {arg arg'} (operand : Identical arg arg') : Identical (.negate arg) (.negate arg')
  | binary {op left left' right right'} (first : Identical left left')
    (second : Identical right right')
    : Identical (.binary op left right) (.binary op left' right')
  | call1 {function arg arg'} (operand : Identical arg arg')
    : Identical (.call1 function arg) (.call1 function arg')
  | call2 {function left left' right right'} (first : Identical left left')
    (second : Identical right right')
    : Identical (.call2 function left right) (.call2 function left' right')

theorem Identical.refl (expr : Expr) : Identical expr expr := by
  induction expr with
  | parameter => exact .parameter
  | constant value => exact .constant rfl
  | negate arg ih => exact .negate ih
  | binary op left right leftIH rightIH => exact .binary leftIH rightIH
  | call1 function arg ih => exact .call1 ih
  | call2 function left right leftIH rightIH => exact .call2 leftIH rightIH

/-- Nothing tells identical trees apart, by induction along both of them. -/
theorem Identical.eq {first second : Expr} (identical : Identical first second)
    : first = second := by
  induction identical with
  | parameter => rfl
  | constant sameBits => rw [Double.toBits_inj.mp sameBits]
  | negate _ ih | call1 _ ih => rw [ih]
  | binary _ _ firstIH secondIH | call2 _ _ firstIH secondIH => rw [firstIH, secondIH]

-----------------------------------------------------------------------------------------
-- What the comparison looks at
-----------------------------------------------------------------------------------------

/-- What is left of a member of the library when only its name is looked at. -/
def nameOnly (function : Export) : Export :=
  { name := function.name, member := .constant .noNumber }

/-- A tree with nothing but the names of what it calls. -/
def named : Expr → Expr
  | .parameter => .parameter
  | .constant value => .constant value
  | .negate arg => .negate arg.named
  | .binary op left right => .binary op left.named right.named
  | .call1 function arg => .call1 (nameOnly function) arg.named
  | .call2 function left right => .call2 (nameOnly function) left.named right.named

theorem nameOnly_inj {first second : Export}
    : nameOnly first = nameOnly second ↔ first.name = second.name := by
  simp [nameOnly]

/-- Trees are compared by what is left with nothing but names, by induction over the first tree and
by cases on the second one.
-/
theorem sameAs_iff {first second : Expr}
    : first.sameAs second ↔ first.named = second.named := by
  induction first generalizing second with
  | parameter => cases second <;> simp [sameAs, named]
  | constant value => cases second <;> simp [sameAs, named, Double.toBits_inj]
  | negate arg ih => cases second <;> simp [sameAs, named, ih]
  | binary op left right leftIH rightIH =>
      cases second <;> simp [sameAs, named, leftIH, rightIH, and_assoc]
  | call1 function arg ih => cases second <;> simp [sameAs, named, nameOnly_inj, ih]
  | call2 function left right leftIH rightIH =>
      cases second <;> simp [sameAs, named, nameOnly_inj, leftIH, rightIH, and_assoc]

theorem beq_iff {first second : Expr} : (first == second) ↔ first.named = second.named :=
  sameAs_iff

-----------------------------------------------------------------------------------------
-- Trees that call members of the library
-----------------------------------------------------------------------------------------

/-- Whether whatever a tree calls is what the library has under some name. -/
def CallsLibrary (expr : Expr) : Prop :=
  ∀ part ∈ expr.parts, ∀ function, part.callee? = some function
    → ∃ name, Library.lookup? name = some function

section

variable {op : Operator} {function : Export} {arg left right : Expr}

theorem callsLibrary_negate : CallsLibrary (.negate arg) ↔ arg.CallsLibrary := by
  simp [CallsLibrary, callee?]

theorem callsLibrary_binary
    : CallsLibrary (.binary op left right) ↔ left.CallsLibrary ∧ right.CallsLibrary := by
  simp [CallsLibrary, callee?, or_imp, forall_and]

theorem callsLibrary_call1
    : CallsLibrary (.call1 function arg)
      ↔ (∃ name, Library.lookup? name = some function) ∧ arg.CallsLibrary := by
  simp [CallsLibrary, callee?]

theorem callsLibrary_call2
    : CallsLibrary (.call2 function left right)
      ↔ (∃ name, Library.lookup? name = some function)
        ∧ left.CallsLibrary ∧ right.CallsLibrary := by
  simp [CallsLibrary, callee?, or_imp, forall_and]

end

/-- Names tell trees apart that call members of the library, by induction over the first tree. -/
theorem eq_of_named {first second : Expr} (listed : first.CallsLibrary)
    (also : second.CallsLibrary) (same : first.named = second.named)
    : first = second := by
  induction first generalizing second with
  | parameter => cases second <;> cases same; rfl
  | constant value => cases second <;> cases same; rfl
  | negate arg ih =>
      cases second <;> simp only [named, reduceCtorEq, negate.injEq] at same
      rw [ih (callsLibrary_negate.mp listed) (callsLibrary_negate.mp also) same]
  | binary op left right leftIH rightIH =>
      cases second <;> simp only [named, reduceCtorEq, binary.injEq] at same
      obtain ⟨rfl, sameLeft, sameRight⟩ := same
      obtain ⟨leftListed, rightListed⟩ := callsLibrary_binary.mp listed
      obtain ⟨leftAlso, rightAlso⟩ := callsLibrary_binary.mp also
      rw [leftIH leftListed leftAlso sameLeft, rightIH rightListed rightAlso sameRight]
  | call1 function arg ih =>
      cases second <;> simp only [named, reduceCtorEq, call1.injEq] at same
      obtain ⟨sameFunction, sameArg⟩ := same
      obtain ⟨⟨name, looked⟩, argListed⟩ := callsLibrary_call1.mp listed
      obtain ⟨⟨other, alsoLooked⟩, argAlso⟩ := callsLibrary_call1.mp also
      rw [Library.eq_of_lookup? looked alsoLooked (nameOnly_inj.mp sameFunction),
        ih argListed argAlso sameArg]
  | call2 function left right leftIH rightIH =>
      cases second <;> simp only [named, reduceCtorEq, call2.injEq] at same
      obtain ⟨sameFunction, sameLeft, sameRight⟩ := same
      obtain ⟨⟨name, looked⟩, leftListed, rightListed⟩ := callsLibrary_call2.mp listed
      obtain ⟨⟨other, alsoLooked⟩, leftAlso, rightAlso⟩ := callsLibrary_call2.mp also
      rw [Library.eq_of_lookup? looked alsoLooked (nameOnly_inj.mp sameFunction),
        leftIH leftListed leftAlso sameLeft, rightIH rightListed rightAlso sameRight]

theorem eq_of_beq {first second : Expr} (listed : first.CallsLibrary) (also : second.CallsLibrary)
    (same : first == second)
    : first = second :=
  eq_of_named listed also (beq_iff.mp same)

/-- Comparing is an equivalence on all trees. Two trees that call members of the library compare as
equal exactly if they are identical, and then they are folded to equal trees, use the parameter
alike and have values of the same bits. Witness: what the comparison looks at leaves out nothing but
what the name of a member decides.
-/
theorem beq_iff_identical (first second : Expr) (listed : first.CallsLibrary)
    (also : second.CallsLibrary)
    : (first == second ↔ Identical first second)
      ∧ (Equivalence fun expr other : Expr => expr == other)
      ∧ (first == second →
          first.fold == second.fold
          ∧ first.usesParameter = second.usesParameter
          ∧ ∀ x, (first.eval x).toBits = (second.eval x).toBits) := by
  have reflexive (expr : Expr) : expr == expr := beq_iff.mpr rfl
  refine ⟨⟨?_, ?_⟩, ⟨reflexive, ?_, ?_⟩, ?_⟩
  · intro same
    exact eq_of_beq listed also same ▸ Identical.refl first
  · intro identical
    exact identical.eq ▸ reflexive first
  · intro expr other same
    exact beq_iff.mpr (beq_iff.mp same).symm
  · intro expr middle other same next
    exact beq_iff.mpr ((beq_iff.mp same).trans (beq_iff.mp next))
  · intro same
    obtain rfl := eq_of_beq listed also same
    exact ⟨reflexive first.fold, rfl, fun x => rfl⟩

/-- sqrt(x) % 0 and sqrt(x) % -0 are two trees, and a constant that is no number is one with itself.
-/
theorem beq_signed_zero_and_nan
    : let root : Export :=
        { name := "sqrt", member := .unary (.lift1 Float.sqrt), intrinsic := some .sqrt }
      let tree (value : Double) : Expr :=
        .binary .remainder (.call1 root .parameter) (.constant value)
      (∀ value, (tree value).CallsLibrary)
      ∧ ¬(tree (.ofFloat 0.0) == tree (.ofFloat (-0.0)))
      ∧ (tree (.nan .invalid) == tree (.nan .invalid))
      ∧ Identical (tree (.nan .invalid)) (tree (.nan .invalid))
      ∧ (tree (.nan .invalid)).fold == (tree (.nan .invalid)).fold := by
  intro root tree
  have listed (value : Double) : (tree value).CallsLibrary := by
    have looked : Library.lookup? "sqrt" = some root := rfl
    refine callsLibrary_binary.mpr ⟨callsLibrary_call1.mpr ⟨⟨"sqrt", looked⟩, ?_⟩, ?_⟩ <;>
      simp [CallsLibrary, callee?]
  obtain ⟨zeros, -, -⟩ :=
    beq_iff_identical (tree (.ofFloat 0.0)) (tree (.ofFloat (-0.0))) (listed _) (listed _)
  obtain ⟨same, equivalence, folds⟩ :=
    beq_iff_identical (tree (.nan .invalid)) (tree (.nan .invalid)) (listed _) (listed _)
  have itself := equivalence.refl (tree (.nan .invalid))
  refine ⟨listed, ?_, itself, same.mp itself, (folds itself).1⟩
  rw [zeros]
  intro identical
  cases identical with
  | binary _ second =>
      cases second with
      | constant sameBits => exact absurd sameBits (by decide)

end Expr

end FormulaCompiler
