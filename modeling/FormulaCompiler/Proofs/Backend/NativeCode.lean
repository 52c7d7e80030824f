import FormulaCompiler.Backend.NativeCode
import FormulaCompiler.Proofs.CallKinds
import FormulaCompiler.Proofs.Linkage

/-! Code generation for trees that call library functions only. It always succeeds, and running the
code leaves what evaluating the tree gives, with intrinsics and without.
-/

namespace FormulaCompiler

theorem Import.resolve?_of_link? {declared : Import} {member : Member}
    (link : declared.link? = some member)
    : Library.resolve? declared.symbol = some member :=
  (Option.filter_eq_some_iff.mp link).1

theorem Import.link?_eq {symbol : String} {member : Member} {count : Nat}
    (resolved : Library.resolve? symbol = some member) (arity : member.arity? = some count)
    : Import.link? { symbol, count } = some member :=
  Option.filter_eq_some_iff.mpr ⟨resolved, decide_eq_true arity⟩

namespace Routine

/-- Whether every import is a function of as many arguments as it was declared with. -/
def Linked (routine : Routine) : Prop :=
  ∀ declared ∈ routine.imports, ∃ member, declared.link? = some member

/-- Whether running the code leaves this stack. Imports that later calls add make no difference, as
calls name their functions by places that stay the same.
-/
def Leaves (routine : Routine) (x : Double) (stack : List Double) : Prop :=
  ∀ more, Instruction.run? (routine.imports ++ more) x routine.instructions [] = some stack

/-- Whether a routine goes on from another one with code that puts one value on the stack. -/
structure Pushes (start finish : Routine) (value : Double → Double) : Prop where
  linked : finish.Linked
  leaves : ∀ x stack, start.Leaves x stack → finish.Leaves x (value x :: stack)

/-- Whether a routine goes on from another one with code that applies a function to the top. -/
structure Applies1 (start finish : Routine) (apply : Double → Double) : Prop where
  linked : finish.Linked
  leaves : ∀ x arg stack, start.Leaves x (arg :: stack) → finish.Leaves x (apply arg :: stack)

/-- Whether a routine goes on from another one with code that applies a function to the two values
at the top, of which the upper one is its last argument.
-/
structure Applies2 (start finish : Routine) (apply : Double → Double → Double) : Prop where
  linked : finish.Linked
  leaves
    : ∀ x left right stack, start.Leaves x (right :: left :: stack)
      → finish.Leaves x (apply left right :: stack)

theorem linked_empty : Linked {} := by
  intro declared member
  cases member

theorem leaves_empty (x : Double) : Leaves {} x [] :=
  fun _ => rfl

-----------------------------------------------------------------------------------------
-- Composing pieces of code
-----------------------------------------------------------------------------------------

section

variable {start middle last finish : Routine}

theorem Pushes.apply1 {value apply : Double → Double} (operand : start.Pushes middle value)
    (applied : middle.Applies1 finish apply)
    : start.Pushes finish (fun x => apply (value x)) where
  linked := applied.linked
  leaves x stack left := applied.leaves x _ _ (operand.leaves x stack left)

theorem Pushes.apply2 {first second : Double → Double} {apply : Double → Double → Double}
    (left : start.Pushes middle first) (right : middle.Pushes last second)
    (applied : last.Applies2 finish apply)
    : start.Pushes finish (fun x => apply (first x) (second x)) where
  linked := applied.linked
  leaves x stack before :=
    applied.leaves x _ _ _ (right.leaves x _ (left.leaves x stack before))

end

-----------------------------------------------------------------------------------------
-- One instruction
-----------------------------------------------------------------------------------------

theorem run?_append {imports : List Import} {x : Double} (front back : List Instruction)
    (stack : List Double)
    : Instruction.run? imports x (front ++ back) stack
      = (Instruction.run? imports x front stack).bind (Instruction.run? imports x back) := by
  induction front generalizing stack with
  | nil => rfl
  | cons instruction rest ih =>
      rw [List.cons_append, Instruction.run?, Instruction.run?]
      cases instruction.step? imports x stack with
      | none => rfl
      | some next => exact ih next

/-- An instruction at the end acts on the stack that the code before it leaves. -/
theorem Leaves.append {routine : Routine} {x : Double} {before after : List Double}
    (leaves : routine.Leaves x before) (imports : List Import) {instruction : Instruction}
    (step
      : ∀ more, instruction.step? (routine.imports ++ imports ++ more) x before = some after)
    : Leaves ⟨routine.imports ++ imports, routine.instructions ++ [instruction]⟩ x after := by
  intro more
  dsimp only
  rw [run?_append, List.append_assoc, leaves (imports ++ more), ← List.append_assoc]
  simp only [Option.bind_some, Instruction.run?, step]

theorem Leaves.emit {routine : Routine} {x : Double} {before after : List Double}
    (leaves : routine.Leaves x before) {instruction : Instruction}
    (step : ∀ imports, instruction.step? imports x before = some after)
    : (routine.emit instruction).Leaves x after := by
  have appended := leaves.append [] (fun _ => step _)
  rwa [List.append_nil] at appended

section

variable {routine : Routine} (linked : routine.Linked)

include linked

theorem pushes_parameter : routine.Pushes (routine.emit .parameter) (fun x => x) where
  linked := linked
  leaves _ _ before := before.emit (fun _ => rfl)

theorem pushes_constant (value : Double)
    : routine.Pushes (routine.emit (.constant value)) (fun _ => value) where
  linked := linked
  leaves _ _ before := before.emit (fun _ => rfl)

theorem applies1_negate : routine.Applies1 (routine.emit .negate) (fun arg => -arg) where
  linked := linked
  leaves _ _ _ before := before.emit (fun _ => rfl)

theorem applies1_intrinsic (intrinsic : Intrinsic)
    : routine.Applies1 (routine.emit (.intrinsic intrinsic)) intrinsic.apply where
  linked := linked
  leaves _ _ _ before := before.emit (fun _ => rfl)

theorem applies1_roundToSingle
    : routine.Applies1 (routine.emit .roundToSingle) ReturnType.single.cast where
  linked := linked
  leaves _ _ _ before := before.emit (fun _ => rfl)

-----------------------------------------------------------------------------------------
-- Calls through the imports
-----------------------------------------------------------------------------------------

/-- A call names a place that holds its function, whether the import is new or an earlier one. An
earlier one has the count that it was declared with: as it is linked, that is the same.
-/
theorem emitCall_eq {symbol : String} {member : Member} {count : Nat}
    (resolved : Library.resolve? symbol = some member) (arity : member.arity? = some count)
    : ∃ place added,
        routine.emitCall symbol count
          = ⟨routine.imports ++ added, routine.instructions ++ [.call place count]⟩
        ∧ (∀ declared ∈ added, ∃ member, declared.link? = some member)
        ∧ ∀ more,
            (routine.imports ++ added ++ more)[place]?.bind Import.link? = some member := by
  unfold emitCall
  split
  · rename_i place found
    refine ⟨place, [], ?_, by simp, ?_⟩
    · rw [List.append_nil]
      rfl
    · intro more
      obtain ⟨bound, same, -⟩ := List.findIdx?_eq_some_iff_getElem.mp found
      obtain ⟨other, link⟩ := linked _ (List.getElem_mem bound)
      have known := Import.resolve?_of_link? link
      rw [of_decide_eq_true same, resolved] at known
      obtain rfl := Option.some.inj known
      rw [List.append_nil, List.getElem?_append_left bound, List.getElem?_eq_getElem bound]
      exact link
  · have link := Import.link?_eq resolved arity
    refine ⟨routine.imports.length, [{ symbol, count }], rfl, ?_, ?_⟩
    · intro declared member
      obtain rfl := List.mem_singleton.mp member
      exact ⟨_, link⟩
    · intro more
      rw [List.append_assoc, List.getElem?_append_right (Nat.le_refl _), Nat.sub_self]
      exact link

theorem Linked.append {added : List Import} {instructions : List Instruction}
    (more : ∀ declared ∈ added, ∃ member, declared.link? = some member)
    : Linked ⟨routine.imports ++ added, instructions⟩ :=
  fun declared member => (List.mem_append.mp member).elim (linked declared) (more declared)

theorem applies1_emitCall {symbol : String} {apply : Double → Double}
    (resolved : Library.resolve? symbol = some (.unary apply))
    : routine.Applies1 (routine.emitCall symbol 1) apply := by
  obtain ⟨place, added, same, sound, called⟩ := emitCall_eq linked resolved rfl
  rw [same]
  refine ⟨linked.append sound, ?_⟩
  intro x arg stack before
  apply before.append added
  intro more
  rw [Instruction.step?, called more]

theorem applies2_emitCall {symbol : String} {apply : Double → Double → Double}
    (resolved : Library.resolve? symbol = some (.binary apply))
    : routine.Applies2 (routine.emitCall symbol 2) apply := by
  obtain ⟨place, added, same, sound, called⟩ := emitCall_eq linked resolved rfl
  rw [same]
  refine ⟨linked.append sound, ?_⟩
  intro x left right stack before
  apply before.append added
  intro more
  rw [Instruction.step?, called more]

-----------------------------------------------------------------------------------------
-- Operators and functions
-----------------------------------------------------------------------------------------

/-- An operator computes what it does in the tree, also where it is a call. -/
theorem applies2_emitOperator (op : Operator)
    : routine.Applies2 (routine.emitOperator op) op.apply := by
  cases op with
  | add | subtract | multiply | divide =>
      exact ⟨linked, fun _ _ _ _ before => before.emit (fun _ => rfl)⟩
  | remainder => exact applies2_emitCall linked Library.resolve?_remainderSymbol
  | power => exact applies2_emitCall linked Library.resolve?_powerSymbol

theorem applies1_emitExport {function : Export} {apply : Double → Double}
    (listed : function ∈ Library.members) (kind : function.member = .unary apply)
    : ∃ finish, routine.emitExport function 1 = .ok finish
        ∧ routine.Applies1 finish apply := by
  have symbol := Library.symbol?_eq_some function (congrArg Member.arity? kind)
  unfold emitExport
  rw [symbol]
  have resolved := Library.resolve?_symbol listed symbol
  rw [kind] at resolved
  exact ⟨_, rfl, applies1_emitCall linked resolved⟩

theorem applies2_emitExport {function : Export} {apply : Double → Double → Double}
    (listed : function ∈ Library.members) (kind : function.member = .binary apply)
    : ∃ finish, routine.emitExport function 2 = .ok finish
        ∧ routine.Applies2 finish apply := by
  have symbol := Library.symbol?_eq_some function (congrArg Member.arity? kind)
  unfold emitExport
  rw [symbol]
  have resolved := Library.resolve?_symbol listed symbol
  rw [kind] at resolved
  exact ⟨_, rfl, applies2_emitCall linked resolved⟩

/-- A function of one argument is the same function whether it is inlined or called. -/
theorem applies1_emitUnary {function : Export} {apply : Double → Double} (intrinsics : Bool)
    (listed : function ∈ Library.members) (kind : function.member = .unary apply)
    : ∃ finish, routine.emitUnary function intrinsics = .ok finish
        ∧ routine.Applies1 finish apply := by
  unfold emitUnary
  split
  · rename_i intrinsic found
    split
    · have inlined := Library.member_of_intrinsic function listed intrinsic found
      rw [kind] at inlined
      obtain rfl := Member.unary.inj inlined
      exact ⟨_, rfl, applies1_intrinsic linked intrinsic⟩
    · exact applies1_emitExport linked listed kind
  · exact applies1_emitExport linked listed kind

end

end Routine

-----------------------------------------------------------------------------------------
-- Whole trees
-----------------------------------------------------------------------------------------

/-- Generating code for a tree succeeds after any code, and the code pushes the value of the tree.
Witness: by induction over the calls of the tree, each node applies its function to what the code
of its operands pushed.
-/
theorem Expr.CallsFunctions.generate {expr : Expr} (calls : expr.CallsFunctions)
    (intrinsics : Bool) {routine : Routine} (linked : routine.Linked)
    : ∃ finish, expr.generate intrinsics routine = .ok finish
        ∧ routine.Pushes finish (fun x => expr.eval x) := by
  induction calls generalizing routine with
  | parameter => exact ⟨_, rfl, Routine.pushes_parameter linked⟩
  | constant => exact ⟨_, rfl, Routine.pushes_constant linked _⟩
  | negate _ ih =>
      obtain ⟨middle, generated, operand⟩ := ih linked
      refine ⟨middle.emit .negate, ?_, ?_⟩
      · rw [Expr.generate, generated]
        rfl
      · exact operand.apply1 (Routine.applies1_negate operand.linked)
  | @binary op _ _ _ _ firstIH secondIH =>
      obtain ⟨middle, first, left⟩ := firstIH linked
      obtain ⟨last, second, right⟩ := secondIH left.linked
      refine ⟨last.emitOperator op, ?_, ?_⟩
      · simp only [Expr.generate, first, second, bind, Except.bind]
        rfl
      · exact left.apply2 right (Routine.applies2_emitOperator right.linked op)
  | call1 listed kind _ ih =>
      obtain ⟨middle, generated, operand⟩ := ih linked
      obtain ⟨finish, emitted, applied⟩ :=
        Routine.applies1_emitUnary operand.linked intrinsics listed kind
      refine ⟨finish, ?_, ?_⟩
      · rw [Expr.generate, generated]
        exact emitted
      · simp only [Expr.eval, kind]
        exact operand.apply1 applied
  | call2 listed kind _ _ firstIH secondIH =>
      obtain ⟨middle, first, left⟩ := firstIH linked
      obtain ⟨last, second, right⟩ := secondIH left.linked
      obtain ⟨finish, emitted, applied⟩ :=
        Routine.applies2_emitExport right.linked listed kind
      refine ⟨finish, ?_, ?_⟩
      · simp only [Expr.generate, first, second, bind, Except.bind]
        exact emitted
      · simp only [Expr.eval, kind]
        exact left.apply2 right applied

/-- The code of a function succeeds, and running it from its start leaves just the cast value. -/
theorem Analysis.routine_leaves {analysis : Analysis} (calls : analysis.expr.CallsFunctions)
    (intrinsics : Bool)
    : ∃ routine, analysis.routine intrinsics = .ok routine
        ∧ ∀ x, routine.Leaves x [analysis.returnType.cast (analysis.expr.eval x)] := by
  obtain ⟨body, generated, pushes⟩ := calls.generate intrinsics Routine.linked_empty
  have left := fun x => pushes.leaves x [] (Routine.leaves_empty x)
  unfold Analysis.routine
  rw [generated]
  cases analysis.returnType with
  | double => exact ⟨body, rfl, left⟩
  | single =>
      have rounded := Routine.applies1_roundToSingle pushes.linked
      exact ⟨_, rfl, fun x => rounded.leaves x _ [] (left x)⟩

theorem Routine.call_of_leaves {routine : Routine} {x value : Double}
    (leaves : routine.Leaves x [value])
    : routine.call x = value := by
  have run := leaves []
  rw [List.append_nil] at run
  unfold call
  rw [run]

end FormulaCompiler
