import FormulaCompiler.Backend.NativeCode
import FormulaCompiler.Proofs.LibraryNames
import FormulaCompiler.Proofs.WellKinded

/-! The calls in bound trees, folded or not. Each is one of a function that the library has under
its name and that is linked under its symbol, so neither evaluating a bound tree nor generating code
for it comes to a call that means nothing.
-/

namespace FormulaCompiler

-----------------------------------------------------------------------------------------
-- Functions and their symbols
-----------------------------------------------------------------------------------------

/-- Whether the library has this function under its name, and its symbol is linked to this function
and to nothing else.
-/
structure Export.Linked (function : Export) : Prop where
  found : Library.lookup? function.name = some function
  linked
    : ∃ symbol, function.symbol? = some symbol ∧ symbol ≠ ""
        ∧ ∀ member, (symbol, member) ∈ Library.linkage ↔ member = function.member

theorem Library.symbolStem_append_ne (name : String) : symbolStem ++ name ≠ "" := by
  intro same
  have letters := congrArg String.toList same
  rw [String.toList_append] at letters
  exact absurd (List.append_eq_nil_iff.mp letters).1 (by decide)

theorem Library.linked_of_mem {function : Export} (listed : function ∈ members) {count : Nat}
    (callable : function.member.arity? = some count)
    : function.Linked := by
  have symbol := symbol?_eq_some function callable
  refine ⟨lookup?_eq_some_iff.mpr ⟨listed, rfl⟩, _, symbol, symbolStem_append_ne _, ?_⟩
  intro member
  constructor
  · intro entry
    exact Option.some.inj ((resolve?_of_mem entry).symm.trans (resolve?_symbol listed symbol))
  · rintro rfl
    exact mem_linkage listed symbol

-----------------------------------------------------------------------------------------
-- Trees
-----------------------------------------------------------------------------------------

namespace Expr

/-- The member of the library that a tree calls, if it is a call. -/
def callee? : Expr → Option Export
  | .call1 function _ | .call2 function _ _ => some function
  | _ => none

theorem CallsFunctions.wellKinded {expr : Expr} (calls : expr.CallsFunctions)
    : expr.WellKinded := by
  induction calls with
  | parameter => exact wellKinded_parameter
  | constant => exact wellKinded_constant
  | negate _ ih => exact wellKinded_negate.mpr ih
  | binary _ _ firstIH secondIH => exact wellKinded_binary.mpr ⟨firstIH, secondIH⟩
  | call1 _ kind _ ih => exact wellKinded_call1.mpr ⟨⟨_, kind⟩, ih⟩
  | call2 _ kind _ _ firstIH secondIH =>
      exact wellKinded_call2.mpr ⟨⟨_, kind⟩, firstIH, secondIH⟩

theorem CallsFunctions.linked_of_part {expr part : Expr} (calls : expr.CallsFunctions)
    (member : part ∈ expr.parts) {function : Export} (called : part.callee? = some function)
    : function.Linked := by
  induction calls with
  | parameter | constant =>
      rw [List.mem_singleton.mp member] at called
      cases called
  | negate _ ih =>
      rcases List.mem_cons.mp member with rfl | within
      · cases called
      · exact ih within
  | binary _ _ firstIH secondIH =>
      rcases List.mem_cons.mp member with rfl | within
      · cases called
      · exact (List.mem_append.mp within).elim firstIH secondIH
  | call1 listed kind _ ih =>
      rcases List.mem_cons.mp member with rfl | within
      · cases called
        exact Library.linked_of_mem listed (congrArg Member.arity? kind)
      · exact ih within
  | call2 listed kind _ _ firstIH secondIH =>
      rcases List.mem_cons.mp member with rfl | within
      · cases called
        exact Library.linked_of_mem listed (congrArg Member.arity? kind)
      · exact (List.mem_append.mp within).elim firstIH secondIH

/-- Code can be generated for every function, with its own instruction or with a call. -/
theorem exists_emitExport (routine : Routine) (function : Export) {count : Nat}
    (callable : function.member.arity? = some count) (declared : Nat)
    : ∃ finish, routine.emitExport function declared = .ok finish := by
  unfold Routine.emitExport
  rw [Library.symbol?_eq_some function callable]
  exact ⟨_, rfl⟩

theorem exists_emitUnary (routine : Routine) (function : Export) {count : Nat}
    (callable : function.member.arity? = some count) (intrinsics : Bool)
    : ∃ finish, routine.emitUnary function intrinsics = .ok finish := by
  have called := exists_emitExport routine function callable 1
  unfold Routine.emitUnary
  split
  · split
    · exact ⟨_, rfl⟩
    · exact called
  · exact called

/-- Code is generated behind any other code for a tree in which all calls have a meaning. -/
theorem WellKinded.exists_generate {expr : Expr} (kinded : expr.WellKinded) (intrinsics : Bool)
    (routine : Routine)
    : ∃ finish, expr.generate intrinsics routine = .ok finish := by
  induction expr generalizing routine with
  | parameter | constant _ => exact ⟨_, rfl⟩
  | negate arg ih =>
      obtain ⟨middle, operand⟩ := ih (wellKinded_negate.mp kinded) routine
      rw [generate, operand]
      exact ⟨_, rfl⟩
  | binary op left right leftIH rightIH =>
      obtain ⟨leftKinded, rightKinded⟩ := wellKinded_binary.mp kinded
      obtain ⟨middle, first⟩ := leftIH leftKinded routine
      obtain ⟨last, second⟩ := rightIH rightKinded middle
      rw [generate, first]
      change ∃ finish, (do
        let routine ← right.generate intrinsics middle
        return routine.emitOperator op) = Except.ok finish
      rw [second]
      exact ⟨_, rfl⟩
  | call1 function arg ih =>
      obtain ⟨⟨apply, kind⟩, argKinded⟩ := wellKinded_call1.mp kinded
      obtain ⟨middle, operand⟩ := ih argKinded routine
      rw [generate, operand]
      exact exists_emitUnary middle function (congrArg Member.arity? kind) intrinsics
  | call2 function left right leftIH rightIH =>
      obtain ⟨⟨apply, kind⟩, leftKinded, rightKinded⟩ := wellKinded_call2.mp kinded
      obtain ⟨middle, first⟩ := leftIH leftKinded routine
      obtain ⟨last, second⟩ := rightIH rightKinded middle
      rw [generate, first]
      change ∃ finish, (do
        let routine ← right.generate intrinsics middle
        routine.emitExport function 2) = Except.ok finish
      rw [second]
      exact exists_emitExport last function (congrArg Member.arity? kind) 2

end Expr

-----------------------------------------------------------------------------------------
-- Binding
-----------------------------------------------------------------------------------------

namespace Scope

variable {scope : Scope}

theorem callsFunctions_of_bind {items : List PostfixItem} {expr : Expr}
    (bound : (scope.bind items).1 = some expr)
    : expr.CallsFunctions :=
  bindOnto_callsFunctions (List.forall_mem_nil _) (Prod.ext bound rfl)

/-- A call is refused before its arguments are looked at, or for their number. -/
theorem call_of_arity {path : String} {arguments : List Expr} {found : Export}
    (other : path ≠ scope.parameter) (resolved : scope.resolve path = .ok found)
    (arity : found.member.arity? = some arguments.length)
    : (∃ arg, arguments = [arg] ∧ scope.call path arguments = .ok (.call1 found arg))
      ∨ ∃ left right, arguments = [left, right]
          ∧ scope.call path arguments = .ok (.call2 found left right) := by
  rw [call_eq]
  rw [if_neg other, resolved]
  cases kind : found.member with
  | constant value =>
      rw [kind] at arity
      cases arity
  | unary apply =>
      rw [kind] at arity
      obtain ⟨arg, rfl⟩ := List.length_eq_one_iff.mp (Option.some.inj arity).symm
      exact .inl ⟨arg, rfl, by simp only [kind]⟩
  | binary apply =>
      rw [kind] at arity
      obtain ⟨left, right, rfl⟩ := List.length_eq_two.mp (Option.some.inj arity).symm
      exact .inr ⟨left, right, rfl, by simp only [kind]⟩

end Scope

/-- In every tree that items are bound to, and in what is folded of it, each call is one of a
function of as many arguments, which the library has under its name and which is linked under its
symbol. So evaluation never comes to a call that means nothing, and code is always generated; and a
call whose path leads to a function of as many arguments is never refused. Witness: items put calls
on the stack only behind the lookup and the count of arguments, and folding keeps the calls that it
does not compute.
-/
theorem bound_trees_call_linked_functions (scope : Scope) (items : List PostfixItem) (expr : Expr)
    (bound : (scope.bind items).1 = some expr)
    : (∀ tree, tree = expr ∨ tree = expr.fold →
        (∀ part ∈ tree.parts,
            part.CallsItsKind ∧ ∀ function, part.callee? = some function → function.Linked)
        ∧ (∀ x, tree.eval? x = some (tree.eval x))
        ∧ ∀ intrinsics routine, ∃ finish, tree.generate intrinsics routine = .ok finish)
      ∧ ∀ path arguments found,
          path ≠ scope.parameter
          → scope.resolve path = .ok found
          → found.member.arity? = some arguments.length
          → (∃ arg, arguments = [arg] ∧ scope.call path arguments = .ok (.call1 found arg))
            ∨ ∃ left right, arguments = [left, right]
                ∧ scope.call path arguments = .ok (.call2 found left right) := by
  have calls := Scope.callsFunctions_of_bind bound
  constructor
  · intro tree same
    have treeCalls : tree.CallsFunctions := by
      rcases same with rfl | rfl
      · exact calls
      · exact calls.fold
    have kinded := treeCalls.wellKinded
    refine ⟨fun part member => ⟨kinded part member, ?_⟩, kinded.eval?_eq, kinded.exists_generate⟩
    exact fun function => treeCalls.linked_of_part member
  · intro path arguments found
    exact Scope.call_of_arity

/-- The items of max(sin(x), y) are bound to two calls, although y is unknown. -/
theorem bound_max_of_sin
    : let scope : Scope := { parameter := "x", imports := ["math"] }
      let items : List PostfixItem :=
        [⟨.name "x", ⟨20, 21⟩⟩, ⟨.call "math::sin" 1, ⟨10, 22⟩⟩, ⟨.name "y", ⟨24, 25⟩⟩,
          ⟨.call "math::max" 2, ⟨0, 26⟩⟩]
      ∃ expr, (scope.bind items).1 = some expr
        ∧ (∃ function,
            expr.callee? = some function ∧ function.name = "max" ∧ function.Linked)
        ∧ (∀ x, expr.fold.eval? x = some (expr.fold.eval x))
        ∧ ∃ finish, expr.fold.generate true {} = .ok finish := by
  intro scope items
  obtain ⟨expr, bound, function, called, named⟩
      : ∃ expr, (scope.bind items).1 = some expr
          ∧ ∃ function, expr.callee? = some function ∧ function.name = "max" :=
    ⟨_, rfl, _, rfl, rfl⟩
  obtain ⟨sound, -⟩ := bound_trees_call_linked_functions scope items expr bound
  obtain ⟨calls, -, -⟩ := sound expr (.inl rfl)
  obtain ⟨-, evaluated, generated⟩ := sound expr.fold (.inr rfl)
  have linked := (calls expr expr.mem_parts).2 function called
  exact ⟨expr, bound, ⟨function, called, named, linked⟩, evaluated, generated true {}⟩

end FormulaCompiler
