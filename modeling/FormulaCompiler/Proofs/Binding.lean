import FormulaCompiler.Binding
import FormulaCompiler.Proofs.Grammar
import FormulaCompiler.Proofs.ProblemKinds

/-! Binding the postorder of a tree goes along the tree. It always leaves one expression, and the
reports are those of the nodes in their order.
-/

namespace FormulaCompiler

theorem Diagnostic.hasErrors_append (first second : List Diagnostic)
    : hasErrors (first ++ second) = (hasErrors first || hasErrors second) :=
  List.any_append

/-- The expression that stands for a resolved name or call, or its placeholder. -/
def placed : Except Problem Expr → Expr
  | .ok expr => expr
  | .error _ => .constant .noNumber

/-- The report about a name or call that is not resolved. -/
def reported (span : Span) : Except Problem Expr → List Diagnostic
  | .ok _ => []
  | .error problem => [{ problem, span }]

-----------------------------------------------------------------------------------------
-- Names that cannot be resolved
-----------------------------------------------------------------------------------------

namespace Scope

variable {scope : Scope} {path : String} {problem : Problem}

theorem kind?_of_resolve (failed : scope.resolve path = .error problem)
    : problem.kind? = some .name := by
  unfold resolve at failed
  split at failed
  · cases failed
    rfl
  · dsimp only at failed
    split at failed
    · split at failed <;> cases failed
      rfl
    · cases failed
      rfl

theorem kind?_of_name (failed : scope.name path = .error problem)
    : problem.kind? = some .name := by
  unfold name at failed
  split at failed
  · cases failed
  · split at failed
    · cases failed
      exact kind?_of_resolve ‹_›
    · split at failed <;> cases failed
      rfl

theorem kind?_of_call {arguments : List Expr}
    (failed : scope.call path arguments = .error problem)
    : problem.kind? = some .name := by
  rw [call_eq] at failed
  split at failed
  · cases failed
    rfl
  · split at failed
    · cases failed
      exact kind?_of_resolve ‹_›
    · split at failed <;> cases failed <;> rfl

end Scope

-----------------------------------------------------------------------------------------
-- What a tree is bound to
-----------------------------------------------------------------------------------------

namespace Formula

variable (scope : Scope)

mutual
/-- The expression that a tree is bound to. -/
def bound : Formula → Expr
  | number value _ => .constant (.ofFloat value)
  | name path _ => placed (scope.name path)
  | negate arg _ => .negate (bound arg)
  | operator op left right _ => .binary op (bound left) (bound right)
  | call path args _ => placed (scope.call path (boundAll args))

/-- The expressions that several trees are bound to. -/
def boundAll : List Formula → List Expr
  | [] => []
  | arg :: rest => bound arg :: boundAll rest
end

mutual
/-- The reports about a tree, from its first node in postorder to its last. -/
def reports : Formula → List Diagnostic
  | number _ _ => []
  | name path span => reported span (scope.name path)
  | negate arg _ => reports arg
  | operator op left right span =>
    reports left ++ (reports right
      ++ if op.divides && (bound scope right).isLiteralZero then
          [{ problem := .zeroDivisor, span }]
        else [])
  | call path args span => reportsAll args ++ reported span (scope.call path (boundAll scope args))

/-- The reports about several trees, one tree after the other. -/
def reportsAll : List Formula → List Diagnostic
  | [] => []
  | arg :: rest => reports arg ++ reportsAll rest
end

end Formula

namespace Scope

variable {scope : Scope}

/-- The result of binding with earlier reports in front. -/
def prepend (found : List Diagnostic) (result : Option Expr × List Diagnostic)
    : Option Expr × List Diagnostic :=
  (result.1, found ++ result.2)

theorem prepend_prepend (first second : List Diagnostic) (result : Option Expr × List Diagnostic)
    : prepend first (prepend second result) = prepend (first ++ second) result := by
  simp only [prepend, List.append_assoc]

-----------------------------------------------------------------------------------------
-- One item
-----------------------------------------------------------------------------------------

theorem bindOnto_cons {stack : List Expr} {item : PostfixItem} {reduction : Reduction}
    (reduced : scope.reduce? stack item.content = some reduction) (rest : List PostfixItem)
    : scope.bindOnto stack (item :: rest)
      = prepend
          (reduction.problem?.toList.map fun problem => { problem, span := item.span })
          (scope.bindOnto (reduction.expr :: reduction.below) rest) := by
  rw [bindOnto, reduced]
  rfl

theorem bindOnto_resolved {stack below : List Expr} {item : PostfixItem}
    {resolved : Except Problem Expr}
    (reduced : scope.reduce? stack item.content = some (.ofResolved below resolved))
    (rest : List PostfixItem)
    : scope.bindOnto stack (item :: rest)
      = prepend (reported item.span resolved) (scope.bindOnto (placed resolved :: below) rest) := by
  rw [bindOnto_cons reduced]
  cases resolved <;> rfl

theorem kind?_of_ofResolved {below : List Expr} {resolved : Except Problem Expr}
    {problem : Problem} (named : ∀ failed, resolved = .error failed → failed.kind? = some .name)
    (found : (Reduction.ofResolved below resolved).problem? = some problem)
    : problem.kind? = some .name := by
  cases resolved with
  | ok expr => cases found
  | error failed =>
      cases found
      exact named problem rfl

/-- What there is to report about one item is about a name or a value. -/
theorem kind?_of_reduce? {stack : List Expr} {node : PostfixNode} {reduction : Reduction}
    {problem : Problem} (reduced : scope.reduce? stack node = some reduction)
    (found : reduction.problem? = some problem)
    : problem.kind? = some .name ∨ problem.kind? = some .value := by
  cases node with
  | number value =>
      cases reduced
      cases found
  | name path =>
      cases reduced
      exact .inl (kind?_of_ofResolved (fun _ => kind?_of_name) found)
  | negate =>
      cases stack <;> cases reduced
      cases found
  | operator op =>
      rcases stack with _ | ⟨right, _ | ⟨left, below⟩⟩ <;> cases reduced
      dsimp only at found
      split at found <;> cases found
      exact .inr rfl
  | call path count =>
      rw [reduce?] at reduced
      split at reduced <;> cases reduced
      exact .inl (kind?_of_ofResolved (fun _ => kind?_of_call) found)

theorem length_boundAll (args : List Formula)
    : (Formula.boundAll scope args).length = args.length := by
  induction args with
  | nil => rfl
  | cons arg rest ih => rw [Formula.boundAll, List.length_cons, ih, List.length_cons]

-----------------------------------------------------------------------------------------
-- Whole trees
-----------------------------------------------------------------------------------------

mutual
/-- The items of a tree put the expression of the tree on any stack, and nothing else. -/
theorem bindOnto_postorder (formula : Formula) (stack : List Expr) (more : List PostfixItem)
    : scope.bindOnto stack (formula.postorder ++ more)
      = prepend (formula.reports scope)
          (scope.bindOnto (formula.bound scope :: stack) more) := by
  cases formula with
  | number value span =>
      rw [Formula.postorder, List.singleton_append, bindOnto_cons rfl]
      rfl
  | name path span =>
      rw [Formula.postorder, List.singleton_append, bindOnto_resolved rfl]
      rfl
  | negate arg span =>
      rw [Formula.postorder, List.append_assoc, bindOnto_postorder arg, List.singleton_append,
        bindOnto_cons rfl]
      rfl
  | operator op left right span =>
      rw [Formula.postorder, List.append_assoc, List.append_assoc, bindOnto_postorder left,
        bindOnto_postorder right, List.singleton_append, bindOnto_cons rfl]
      dsimp only
      rw [prepend_prepend, prepend_prepend, Formula.reports, Formula.bound, ← List.append_assoc]
      split <;> rfl
  | call path args span =>
      have enough : args.length ≤ ((Formula.boundAll scope args).reverse ++ stack).length := by
        simp [length_boundAll]
      have reduced
          : scope.reduce? ((Formula.boundAll scope args).reverse ++ stack)
              (.call path args.length)
            = some (.ofResolved stack (scope.call path (Formula.boundAll scope args))) := by
        have count : args.length = (Formula.boundAll scope args).reverse.length := by
          rw [List.length_reverse, length_boundAll]
        rw [reduce?, if_pos enough, count, List.take_left, List.drop_left, List.reverse_reverse]
      rw [Formula.postorder, List.append_assoc, bindOnto_postorderAll args, List.singleton_append,
        bindOnto_resolved reduced, prepend_prepend]
      rfl

/-- The items of several trees put their expressions on any stack, the last one on top. -/
theorem bindOnto_postorderAll (args : List Formula) (stack : List Expr)
    (more : List PostfixItem)
    : scope.bindOnto stack (Formula.postorderAll args ++ more)
      = prepend (Formula.reportsAll scope args)
          (scope.bindOnto ((Formula.boundAll scope args).reverse ++ stack) more) := by
  cases args with
  | nil => rfl
  | cons arg rest =>
      rw [Formula.postorderAll, List.append_assoc, bindOnto_postorder arg,
        bindOnto_postorderAll rest, prepend_prepend, Formula.boundAll, List.reverse_cons,
        List.append_assoc]
      rfl
end

/-- Binding the postorder of a tree leaves its expression and makes its reports. -/
theorem bind_postorder (scope : Scope) (formula : Formula)
    : scope.bind formula.postorder = (some (formula.bound scope), formula.reports scope) := by
  have whole : scope.bind formula.postorder = scope.bindOnto [] (formula.postorder ++ []) := by
    rw [List.append_nil, bind]
  rw [whole, bindOnto_postorder, bindOnto, prepend, List.append_nil]

end Scope

end FormulaCompiler
