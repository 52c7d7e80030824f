import FormulaCompiler.Analysis
import FormulaCompiler.Proofs.Linkage

/-! In the tree of a checked body every call is one of a library function of as many arguments.
Folding keeps it that way.
-/

namespace FormulaCompiler

/-- Whether every call in a tree is one of a library function of as many arguments. -/
inductive Expr.CallsFunctions : Expr → Prop
  | parameter : CallsFunctions .parameter
  | constant {value} : CallsFunctions (.constant value)
  | negate {arg} (operand : CallsFunctions arg) : CallsFunctions (.negate arg)
  | binary {op left right} (first : CallsFunctions left) (second : CallsFunctions right)
      : CallsFunctions (.binary op left right)
  | call1 {function apply arg} (listed : function ∈ Library.members)
      (kind : function.member = .unary apply) (operand : CallsFunctions arg)
      : CallsFunctions (.call1 function arg)
  | call2 {function apply left right} (listed : function ∈ Library.members)
      (kind : function.member = .binary apply)
      (first : CallsFunctions left) (second : CallsFunctions right)
      : CallsFunctions (.call2 function left right)

-----------------------------------------------------------------------------------------
-- Folding
-----------------------------------------------------------------------------------------

/-- Folding keeps the calls that it cannot compute as they are. -/
theorem Expr.CallsFunctions.fold {expr : Expr} (calls : expr.CallsFunctions)
    : expr.fold.CallsFunctions := by
  induction calls with
  | parameter => exact .parameter
  | constant => exact .constant
  | negate _ ih =>
      unfold Expr.fold
      split
      · exact .constant
      · exact .negate ih
  | binary _ _ firstIH secondIH =>
      unfold Expr.fold
      split
      · exact .constant
      · exact .binary firstIH secondIH
  | call1 listed kind _ ih =>
      unfold Expr.fold
      split
      · exact .constant
      · exact .call1 listed kind ih
  | call2 listed kind _ _ firstIH secondIH =>
      unfold Expr.fold
      split
      · exact .constant
      · exact .call2 listed kind firstIH secondIH

-----------------------------------------------------------------------------------------
-- Binding
-----------------------------------------------------------------------------------------

namespace Scope

variable {scope : Scope}

theorem mem_of_resolve {path : String} {found : Export} (resolved : scope.resolve path = .ok found)
    : found ∈ Library.members := by
  unfold resolve at resolved
  split at resolved
  · cases resolved
  · dsimp only at resolved
    split at resolved
    · split at resolved
      · rename_i member looked
        obtain rfl := Except.ok.inj resolved
        exact Library.mem_of_lookup? looked
      · cases resolved
    · cases resolved

theorem name_callsFunctions {path : String} {expr : Expr} (named : scope.name path = .ok expr)
    : expr.CallsFunctions := by
  unfold name at named
  split at named
  · obtain rfl := Except.ok.inj named
    exact .parameter
  · split at named
    · cases named
    · split at named
      · obtain rfl := Except.ok.inj named
        exact .constant
      · cases named

theorem call_callsFunctions {path : String} {args : List Expr} {expr : Expr}
    (sound : ∀ arg ∈ args, arg.CallsFunctions) (called : scope.call path args = .ok expr)
    : expr.CallsFunctions := by
  rw [call_eq] at called
  split at called
  · cases called
  · split at called
    · cases called
    · rename_i found resolved
      have listed := mem_of_resolve resolved
      split at called
      · cases called
      · rename_i kind
        obtain rfl := Except.ok.inj called
        exact .call1 listed kind (sound _ List.mem_cons_self)
      · cases called
      · rename_i kind
        obtain rfl := Except.ok.inj called
        exact .call2 listed kind (sound _ List.mem_cons_self)
          (sound _ (List.mem_cons_of_mem _ List.mem_cons_self))
      · cases called

theorem ofResolved_callsFunctions {below : List Expr} {resolved : Except Problem Expr}
    (sound : ∀ expr, resolved = .ok expr → expr.CallsFunctions)
    : (Reduction.ofResolved below resolved).expr.CallsFunctions := by
  cases resolved with
  | ok expr => exact sound expr rfl
  | error problem => exact .constant

@[simp] theorem ofResolved_below {below : List Expr} {resolved : Except Problem Expr}
    : (Reduction.ofResolved below resolved).below = below := by
  cases resolved <;> rfl

/-- An item keeps the stack in order, also where it puts a placeholder for an unresolved name. -/
theorem reduce?_callsFunctions {stack : List Expr} {node : PostfixNode} {reduction : Reduction}
    (sound : ∀ expr ∈ stack, expr.CallsFunctions)
    (reduced : scope.reduce? stack node = some reduction)
    : reduction.expr.CallsFunctions ∧ ∀ expr ∈ reduction.below, expr.CallsFunctions := by
  cases node with
  | number value =>
      obtain rfl := Option.some.inj reduced
      exact ⟨.constant, sound⟩
  | name path =>
      obtain rfl := Option.some.inj reduced
      rw [ofResolved_below]
      exact ⟨ofResolved_callsFunctions (fun _ => name_callsFunctions), sound⟩
  | negate =>
      simp only [reduce?] at reduced
      split at reduced
      · obtain rfl := Option.some.inj reduced
        rw [List.forall_mem_cons] at sound
        exact ⟨.negate sound.1, sound.2⟩
      · cases reduced
  | operator op =>
      simp only [reduce?] at reduced
      split at reduced
      · obtain rfl := Option.some.inj reduced
        rw [List.forall_mem_cons, List.forall_mem_cons] at sound
        exact ⟨.binary sound.2.1 sound.1, sound.2.2⟩
      · cases reduced
  | call path count =>
      simp only [reduce?] at reduced
      split at reduced
      · obtain rfl := Option.some.inj reduced
        rw [ofResolved_below]
        refine ⟨ofResolved_callsFunctions (fun _ => call_callsFunctions ?_), ?_⟩
        · intro arg member
          exact sound arg (List.mem_of_mem_take (List.mem_reverse.mp member))
        · exact fun expr member => sound expr (List.mem_of_mem_drop member)
      · cases reduced

theorem bindOnto_callsFunctions {items : List PostfixItem} {stack : List Expr} {expr : Expr}
    {found : List Diagnostic} (sound : ∀ expr ∈ stack, expr.CallsFunctions)
    (bound : scope.bindOnto stack items = (some expr, found))
    : expr.CallsFunctions := by
  induction items generalizing stack found with
  | nil =>
      unfold bindOnto at bound
      split at bound
      · obtain ⟨same, -⟩ := Prod.mk.inj bound
        obtain rfl := Option.some.inj same
        exact sound _ List.mem_cons_self
      · cases bound
  | cons item rest ih =>
      unfold bindOnto at bound
      split at bound
      · cases bound
      · rename_i reduction reduced
        obtain ⟨same, -⟩ := Prod.mk.inj bound
        have kept := reduce?_callsFunctions sound reduced
        exact ih (List.forall_mem_cons.mpr kept) (Prod.ext same rfl)

end Scope

-----------------------------------------------------------------------------------------
-- Checked bodies
-----------------------------------------------------------------------------------------

namespace CodeUnit

theorem check_callsFunctions {unit : CodeUnit} {expr : Expr} {found : List Diagnostic}
    (checked : unit.check = (some expr, found))
    : expr.CallsFunctions := by
  unfold check at checked
  dsimp only at checked
  split at checked
  · cases checked
  · split at checked
    · cases checked
    · split at checked
      · rename_i bound
        obtain ⟨same, -⟩ := Prod.mk.inj checked
        obtain rfl := Option.some.inj same
        exact Scope.bindOnto_callsFunctions (by simp) bound
      · cases checked

/-- A body that passes its checks calls library functions only, each with as many arguments as it
takes, whether it is folded or not.
-/
theorem analyze_callsFunctions {unit : CodeUnit} {options : CompileOptions} {analysis : Analysis}
    (accepted : unit.analyze options = .ok analysis)
    : analysis.expr.CallsFunctions := by
  unfold analyze at accepted
  dsimp only at accepted
  split at accepted
  · rename_i expr checked
    have calls := check_callsFunctions (Prod.ext checked rfl)
    generalize (if options.warningsAsErrors then _ else unit.check.2) = diagnostics at accepted
    split at accepted
    · cases accepted
    · obtain rfl := Except.ok.inj accepted
      dsimp only
      split
      · exact calls.fold
      · exact calls
  · cases accepted

end CodeUnit

end FormulaCompiler
