import FormulaCompiler.Compiler
import FormulaCompiler.Proofs.Backend.Outcomes

/-! The backends that make something to run agree on every unit: on the reports of a refusal, on the
warnings of a compilation, and on the values of its function.
-/

namespace FormulaCompiler

/-- Whatever a module imports has a later id than what it exports. -/
theorem NativeModule.id?_eq_exportedId {module : NativeModule} {symbol : String}
    : module.id? symbol = some exportedId ↔ symbol = module.symbol := by
  unfold id? declared
  rw [List.findIdx?_cons]
  by_cases own : module.symbol = symbol
  · simp [own, exportedId]
  · simp [own, Ne.symm own, exportedId]

/-- A module is found by the symbol of its unit, and by no name that it imports. -/
theorem Artifact.entryPoint?_native (module : NativeModule) (symbol : String)
    : (native module).entryPoint? symbol
      = if symbol = module.symbol then some (.native module.code) else none := by
  simp only [entryPoint?, ← NativeModule.id?_eq_exportedId]
  cases module.id? symbol with
  | none => rfl
  | some id => simp only [Option.some.injEq]

/-- The memory of a module holds its code. -/
theorem NativeModule.run_own (module : NativeModule) (x : Double)
    : module.run module.code x = module.routine.call x := by
  unfold run load?
  rw [if_pos rfl]
  rfl

/-- Whether a compilation can be entered under the symbol of its unit and computes a function,
through its artifact and also as the function that the compiler makes of it.
-/
def Compilation.Computes (compilation : Compilation) (unit : CodeUnit) (value : Double → Double)
    : Prop :=
  ∃ entry, compilation.artifact.entryPoint? unit.symbol = some entry
    ∧ (∀ x, compilation.artifact.call entry x = value x)
    ∧ ∀ process, ∃ function,
        (Compiler.enter unit compilation process).1 = .ok function
        ∧ function.artifact = compilation.artifact ∧ function.entry = entry
        ∧ ∀ x, function.invoke x = value x

namespace Compilation

theorem enter_eq {compilation : Compilation} {unit : CodeUnit} {entry : EntryPoint}
    (found : compilation.artifact.entryPoint? unit.symbol = some entry) (process : Process)
    : (Compiler.enter unit compilation process).1
      = .ok {
          name := unit.symbol
          source := unit.render
          artifact := compilation.artifact
          entry
          warnings := compilation.warnings
        } := by
  unfold Compiler.enter
  rw [found]

/-- Native code is run directly by its function, and by its artifact after a look at the address. -/
theorem computes_native {unit : CodeUnit} {routine : Routine} {code : NativeCode}
    {warnings : List Diagnostic} {value : Double → Double}
    (computed : ∀ x, routine.call x = value x)
    : Compilation.Computes ⟨.native ⟨unit.symbol, routine, code⟩, warnings⟩ unit value := by
  let module : NativeModule := ⟨unit.symbol, routine, code⟩
  have found : (Artifact.native module).entryPoint? unit.symbol = some (.native code) := by
    rw [Artifact.entryPoint?_native]
    exact if_pos rfl
  have ran (x : Double) : module.run code x = value x :=
    (module.run_own x).trans (computed x)
  refine ⟨.native code, found, ?_, ?_⟩
  · intro x
    have own : (Artifact.native module).call (.native code) x = module.run code x := if_pos rfl
    rw [own, ran]
  · intro process
    exact ⟨_, enter_eq found process, rfl, rfl, ran⟩

theorem computes_tree {unit : CodeUnit} {expr : Expr} {returnType : ReturnType}
    {warnings : List Diagnostic} {value : Double → Double}
    (computed : ∀ x, returnType.cast (expr.eval x) = value x)
    : Compilation.Computes ⟨.tree unit.symbol expr returnType, warnings⟩ unit value := by
  have found
      : (Artifact.tree unit.symbol expr returnType).entryPoint? unit.symbol
        = some (.interpreted 0) :=
    if_pos rfl
  exact ⟨.interpreted 0, found, computed, fun process =>
    ⟨_, enter_eq found process, rfl, rfl, computed⟩⟩

end Compilation

namespace Backend

variable {unit : CodeUnit} {options : CompileOptions}

theorem compile_of_refused {diagnostics : List Diagnostic}
    (refused : unit.analyze options = .error diagnostics) (backend : Backend) (process : Process)
    : (backend.compile unit options process).1 = .error diagnostics := by
  unfold compile
  rw [refused]

/-- What is made to be run can be entered under the symbol of its unit, and computes its value. -/
theorem Makes.computes {backend : Backend} {code : NativeCode} {value : Double → Double}
    {artifact : Artifact} (makes : backend.Makes unit.symbol code value artifact)
    (runs : backend ≠ .missing) (warnings : List Diagnostic)
    : Compilation.Computes ⟨artifact, warnings⟩ unit value := by
  cases makes with
  | native computed => exact Compilation.computes_native computed
  | interpreter computed => exact Compilation.computes_tree computed
  | missing => exact absurd rfl runs

/-- A unit that passes its checks is compiled by every backend that makes something to run, and its
function computes the cast value of the checked tree.
-/
theorem compile_of_accepted {analysis : Analysis} (accepted : unit.analyze options = .ok analysis)
    (backend : Backend) (runs : backend ≠ .missing) (process : Process)
    : ∃ compilation, (backend.compile unit options process).1 = .ok compilation
        ∧ compilation.warnings = analysis.warnings
        ∧ compilation.Computes unit (fun x => analysis.returnType.cast (analysis.expr.eval x)) := by
  have outcome := backend.compile_outcome unit options process
  generalize backend.compile unit options process = result at outcome
  cases outcome with
  | refused refused => exact absurd (accepted.symm.trans refused) nofun
  | made analyzed makes =>
      obtain rfl := Except.ok.inj (accepted.symm.trans analyzed)
      exact ⟨_, rfl, rfl, makes.computes runs _⟩

/-- Native code and the interpreter agree on every unit under all options: either both refuse it
with the same reports, or both compile it with the same warnings, and then their entry points under
its symbol and the functions made of them all have the same values. Witness: both only depend on the
checked tree, which generated code computes whether it inlines functions or calls them.
-/
theorem native_agrees_with_interpreter (unit : CodeUnit) (options : CompileOptions)
    (first second : Process)
    : match (native.compile unit options first).1, (interpreter.compile unit options second).1 with
      | .error left, .error right => left = right
      | .ok left, .ok right =>
          left.warnings = right.warnings
          ∧ ∃ value, left.Computes unit value ∧ right.Computes unit value
      | _, _ => False := by
  cases analyzed : unit.analyze options with
  | error diagnostics =>
      rw [compile_of_refused analyzed, compile_of_refused analyzed]
  | ok analysis =>
      obtain ⟨left, leftCompiled, leftWarnings, leftComputes⟩ :=
        compile_of_accepted analyzed .native nofun first
      obtain ⟨right, rightCompiled, rightWarnings, rightComputes⟩ :=
        compile_of_accepted analyzed .interpreter nofun second
      rw [leftCompiled, rightCompiled]
      exact ⟨leftWarnings.trans rightWarnings.symm, _, leftComputes, rightComputes⟩

end Backend

end FormulaCompiler
