import FormulaCompiler.Backend
import FormulaCompiler.Proofs.Backend.NativeCode

/-! Everything that compiling a unit comes to, for each backend: what is made or reported, and what
it leaves of the process.
-/

namespace FormulaCompiler

/-- The value of a unit that passed its checks, after the cast of its result. -/
def Analysis.value (analysis : Analysis) (x : Double) : Double :=
  analysis.returnType.cast (analysis.expr.eval x)

namespace Backend

/-- What a backend makes of a unit with this symbol and value. Code lies at the given address. -/
inductive Makes (symbol : String) (code : NativeCode) (value : Double → Double)
    : Backend → Artifact → Prop
  | native {routine : Routine} (computes : ∀ x, routine.call x = value x)
    : Makes symbol code value .native (.native { symbol, routine, code })
  | interpreter {expr : Expr} {returnType : ReturnType}
    (computes : ∀ x, returnType.cast (expr.eval x) = value x)
    : Makes symbol code value .interpreter (.tree symbol expr returnType)
  | missing : Makes symbol code value .missing .closed

/-- The process after a backend has made an artifact. -/
def occupy : Backend → Process → Process
  | .native, process => process.takeCode.2.acquire
  | .interpreter, process | .missing, process => process.acquire

@[simp] theorem live_occupy (backend : Backend) (process : Process)
    : (backend.occupy process).live = process.live + 1 := by
  cases backend <;> rfl

@[simp] theorem units_occupy (backend : Backend) (process : Process)
    : (backend.occupy process).units = process.units := by
  cases backend <;> rfl

/-- Memory is taken for the code of what is made, if it has any. -/
theorem Makes.memory_occupy {backend : Backend} {symbol : String} {value : Double → Double}
    {artifact : Artifact} {process : Process}
    (makes : backend.Makes symbol process.nextCode value artifact)
    : (backend.occupy process).memory
      = artifact.code?.elim process.memory process.memory.occupy := by
  cases makes <;> rfl

/-- What a backend gives back for a unit, and the process it leaves. -/
inductive Outcome (backend : Backend) (unit : CodeUnit) (options : CompileOptions)
    (process : Process)
    : Except (List Diagnostic) Compilation × Process → Prop
  | refused {reports : List Diagnostic} (refused : unit.analyze options = .error reports)
    : Outcome backend unit options process (.error reports, process)
  | made {analysis : Analysis} {artifact : Artifact}
    (accepted : unit.analyze options = .ok analysis)
    (makes : backend.Makes unit.symbol process.nextCode analysis.value artifact)
    : Outcome backend unit options process
        (.ok { artifact, warnings := analysis.warnings }, backend.occupy process)

/-- A backend refuses what does not pass the checks and nothing else: code can be generated for
every unit that passes them.
-/
theorem compile_outcome (backend : Backend) (unit : CodeUnit) (options : CompileOptions)
    (process : Process)
    : backend.Outcome unit options process (backend.compile unit options process) := by
  unfold compile
  cases analyzed : unit.analyze options with
  | error reports => exact .refused analyzed
  | ok analysis =>
      cases backend with
      | native =>
          have calls := CodeUnit.analyze_callsFunctions analyzed
          obtain ⟨routine, generated, leaves⟩ := analysis.routine_leaves calls options.optimize
          simp only [assemble, generated]
          exact .made analyzed (.native fun x => Routine.call_of_leaves (leaves x))
      | interpreter => exact .made analyzed (.interpreter fun _ => rfl)
      | missing => exact .made analyzed .missing

end Backend

end FormulaCompiler
